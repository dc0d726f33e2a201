import HeadEnd.Command.Catalogue
import HeadEnd.Proofs.Cosem.Reading
import HeadEnd.Proofs.Dialogue.Plan
import HeadEnd.Proofs.Session.Reading
import HeadEnd.Proofs.Session.Storage

/-! # Changes of the clock configuration

The settings are written one after the other, up to the first that is not accepted. The deviation of
daylight saving time is read in between and written only if it has to change; so a request that is
repeated on a meter that stores what is written does not write it again.
-/

namespace HeadEnd

/-- The turn notes what is done, or writes an attribute and is accepted. -/
def Turn.IsAccepted : Turn Answer → Prop
  | ⟨.describe _, _⟩ => True
  | ⟨.write _, answer⟩ => answer = .ok .success
  | _ => False

/-- In the turn one attribute is read, and its value is the number. -/
def Turn.TellsDeviation (n : Int8) (turn : Turn Answer) : Prop :=
  ∃ value, turn.Tells value ∧ value.number? = some n.toInt

/-- The question notes what is done, or it is a write. -/
def Question.IsSetting : Question → Prop
  | .describe _ | .write _ => True
  | _ => False

/-- An accepted turn leaves all attributes as they are, or it is an accepted write. -/
theorem Turn.IsAccepted.spares_or_writes {turn : Turn Answer} (h : turn.IsAccepted) :
    (∀ a, turn.question.Spares a) ∨ ∃ parameter, turn = ⟨.write parameter, .ok .success⟩ := by
  obtain ⟨question, answer⟩ := turn
  cases question with
  | describe text => exact .inl fun _ => trivial
  | write parameter =>
      obtain rfl : answer = .ok .success := h
      exact .inr ⟨parameter, rfl⟩
  | _ => exact h.elim

/-- If every write is accepted, a plan of writes is completed. -/
theorem Proceeds.complete_of_writes {plan : List Question} {history : List (Turn Answer)}
    {complete : Bool} (h : Proceeds Turn.IsAccepted plan history complete)
    (hplan : ∀ question ∈ plan, question.IsSetting)
    (hwrites : ∀ parameter answer, ⟨.write parameter, answer⟩ ∈ history → answer = .ok .success) :
    complete = true := by
  rw [h.complete_iff]
  rintro ⟨question, answer⟩ hmem
  have hsetting := hplan question (h.isPrefix.subset (List.mem_map_of_mem hmem))
  cases question with
  | describe text => trivial
  | write parameter => exact hwrites parameter answer hmem
  | _ => exact hsetting.elim

/-- A turn tells one value. -/
theorem Turn.Tells.unique {turn : Turn Answer} {value other : Value} (h : turn.Tells value)
    (hother : turn.Tells other) : value = other := by
  obtain ⟨question, answer⟩ := turn
  cases question with
  | read address => exact congrArg GetResult.value (Except.ok.inj (h.symm.trans hother))
  | readBatch addresses =>
      exact congrArg GetResult.value (List.cons.inj (Except.ok.inj (h.symm.trans hother))).1
  | _ => exact h.elim

namespace Clock

/-! ## What is asked -/

def settingRequests (id : Int8) (value : Value) : List Question :=
  [.describe ("SetClockConfiguration, preparing to write attribute: " ++ (attributeAddress id).text),
    .write ⟨attributeAddress id, value⟩]

def deviationRequest (device : Device) : Question :=
  if device.supportsBatchedRead then .readBatch [attributeAddress 7] else .read (attributeAddress 7)

namespace Configuration

/-- What is asked before the deviation is read. -/
def opening (c : Configuration) : List Question :=
  settingRequests 3 (.int16 (-c.timeZoneOffset)) ++
    (settingRequests 5 (.octets c.daylightSavingBegin.encode) ++
      settingRequests 6 (.octets c.daylightSavingEnd.encode))

/-- What is asked after the deviation was read. -/
def closing (c : Configuration) (current : Int8) : List Question :=
  (if current ≠ c.daylightSavingDeviation then settingRequests 7 (.int8 c.daylightSavingDeviation)
    else []) ++ settingRequests 8 (.boolean c.daylightSavingEnabled)

/-- How the settings are written. If the offset cannot be counted the other way, nothing is asked.
Otherwise the attributes 3, 5 and 6 are written, the deviation is read, and attribute 7, if its value
has to change, and attribute 8 are written, up to the first write that is not accepted, or to the read
if it tells no deviation. -/
inductive Course (c : Configuration) (device : Device) : Outcome Unit → List (Turn Answer) → Prop
  | excluded : c.timeZoneOffset = Int16.minValue →
      Course c device (.error (.configuration (.timeZoneOffset c.timeZoneOffset))) []
  | refused {failure opening} : c.timeZoneOffset ≠ Int16.minValue →
      Proceeds Turn.IsAccepted c.opening opening false → Course c device (.error failure) opening
  | unreadable {failure opening read} : c.timeZoneOffset ≠ Int16.minValue →
      Proceeds Turn.IsAccepted c.opening opening true → read.question = deviationRequest device →
      (∀ n, ¬ read.TellsDeviation n) → Course c device (.error failure) (opening ++ [read])
  | read {outcome opening read current closing} : c.timeZoneOffset ≠ Int16.minValue →
      Proceeds Turn.IsAccepted c.opening opening true → read.question = deviationRequest device →
      read.TellsDeviation current →
      Proceeds Turn.IsAccepted (c.closing current) closing outcome.isOk →
      Course c device outcome (opening ++ read :: closing)

end Configuration

/-! ## What happens -/

theorem follows_writeSetting (id : Int8) (value : Value) (name : String) :
    Task.Follows Turn.IsAccepted (settingRequests id value) (writeSetting id value name) := by
  intro device history
  unfold writeSetting
  rw [Task.ensures_bind, Operation.ensures_describe]
  rintro _ ⟨-, rfl⟩
  dsimp only
  rw [Task.ensures_bind, Operation.ensures_writeAttribute]
  rintro answer _ ⟨-, rfl⟩
  rw [List.append_assoc]
  cases answer with
  | error failure => exact ⟨rfl, _, rfl, .next trivial (.stopped nofun)⟩
  | ok result =>
      dsimp only
      rw [Operation.ensures_lift]
      cases hcheck : result.check ("clock configuration attribute '" ++ name ++ "'") with
      | error failure =>
          refine ⟨rfl, _, rfl, .next trivial (.stopped fun haccepted => ?_)⟩
          obtain rfl := Except.ok.inj haccepted
          cases hcheck
      | ok _ =>
          obtain rfl := Operation.check_eq_ok_iff.mp hcheck
          exact ⟨rfl, _, rfl, .next trivial (.next rfl .complete)⟩

theorem question_of_reads {device : Device} {context : String} {outcome : Outcome Value}
    {turn : Turn Answer} (h : turn.Reads device context (attributeAddress 7) outcome) :
    turn.question = deviationRequest device := by
  unfold deviationRequest
  cases h with
  | alone _ hsingle =>
      rw [hsingle]
      rfl
  | batched _ hbatched =>
      rw [hbatched]
      rfl

namespace Configuration

variable (c : Configuration)

def writeOpening (zone : Int16) : Operation Unit := do
  writeSetting 3 (.int16 zone) "Timezone"
  writeSetting 5 (.octets c.daylightSavingBegin.encode) "Daylight savings begin"
  writeSetting 6 (.octets c.daylightSavingEnd.encode) "Daylight savings end"

def writeClosing (current : Int8) : Operation Unit := do
  if current ≠ c.daylightSavingDeviation then
    writeSetting 7 (.int8 c.daylightSavingDeviation) "Daylight savings deviation"
  writeSetting 8 (.boolean c.daylightSavingEnabled) "Daylight savings enabled"

theorem configure_eq : configure c = (do
    let zone ← zoneDeviation c.timeZoneOffset
    c.writeOpening zone
    let value ← Operation.readValue "daylight savings deviation" (attributeAddress 7)
    let current : Int8 ← value.toNarrow "daylight savings deviation"
    c.writeClosing current) := by
  simp only [configure, writeOpening, writeClosing, bind_assoc]

theorem follows_writeOpening :
    Task.Follows Turn.IsAccepted c.opening (c.writeOpening (-c.timeZoneOffset)) := by
  apply (follows_writeSetting 3 _ _).bind
  intro _
  apply (follows_writeSetting 5 _ _).bind
  intro _
  exact follows_writeSetting 6 _ _

theorem follows_writeClosing (current : Int8) :
    Task.Follows Turn.IsAccepted (c.closing current) (c.writeClosing current) := by
  unfold writeClosing closing
  split
  · apply (follows_writeSetting 7 _ _).bind
    intro _
    exact follows_writeSetting 8 _ _
  · exact follows_writeSetting 8 _ _

/-- In every run the settings are written in this way. -/
theorem ensures_configure_course (device : Device) :
    Task.Ensures (recording fun _ => True) (configure c) device [] fun outcome d history =>
      d = device ∧ c.Course device outcome history := by
  rw [configure_eq, Task.ensures_bind, Operation.ensures_lift]
  by_cases hzone : c.timeZoneOffset = Int16.minValue
  · rw [zoneDeviation, if_pos hzone]
    exact ⟨rfl, .excluded hzone⟩
  rw [zoneDeviation, if_neg hzone]
  dsimp only
  rw [Task.ensures_bind]
  refine (c.follows_writeOpening device []).imp ?_
  rintro (failure | _) _ _ ⟨rfl, opening, rfl, hopening⟩
  · exact ⟨rfl, .refused hzone hopening⟩
  dsimp only
  rw [Task.ensures_bind]
  refine (Operation.ensures_readValue_turn _ _ (attributeAddress 7) _).imp ?_
  rintro (failure | value) _ _ ⟨rfl, read, rfl, hread⟩
  · refine ⟨rfl, .unreadable hzone hopening (question_of_reads hread) ?_⟩
    rintro n ⟨value, htells, -⟩
    cases hread.eq_ok_iff.mpr htells
  dsimp only
  have hdecodes := value.decodes_toInt8 "daylight savings deviation"
  rw [Task.ensures_bind, Operation.ensures_lift]
  cases hcurrent : (value.toNarrow "daylight savings deviation" : Outcome Int8) with
  | error failure =>
      refine ⟨rfl, .unreadable hzone hopening (question_of_reads hread) ?_⟩
      rintro n ⟨value, htells, hn⟩
      cases hread.eq_ok_iff.mpr htells
      cases hcurrent.symm.trans ((hdecodes.ok_iff n).mpr hn)
  | ok current =>
      have htells : read.TellsDeviation current :=
        ⟨value, hread.eq_ok_iff.mp rfl, (hdecodes.ok_iff current).mp hcurrent⟩
      refine (c.follows_writeClosing current _ _).imp ?_
      rintro outcome _ _ ⟨rfl, closing, rfl, hclosing⟩
      rw [List.append_assoc]
      exact ⟨rfl, .read hzone hopening (question_of_reads hread) htells hclosing⟩

/-! ## What is written -/

/-- The values of the attributes 3, 5 and 6, of attribute 7 if it has to change, and of attribute 8. -/
def settings (differs : Bool) : List SetParameter :=
  [⟨attributeAddress 3, .int16 (-c.timeZoneOffset)⟩,
    ⟨attributeAddress 5, .octets c.daylightSavingBegin.encode⟩,
    ⟨attributeAddress 6, .octets c.daylightSavingEnd.encode⟩] ++
  (if differs then [⟨attributeAddress 7, .int8 c.daylightSavingDeviation⟩] else []) ++
  [⟨attributeAddress 8, .boolean c.daylightSavingEnabled⟩]

theorem spares_deviationRequest (device : Device) (a : Attribute) :
    (deviationRequest device).Spares a := by
  unfold deviationRequest
  split <;> trivial

theorem write?_deviationRequest (device : Device) : (deviationRequest device).write? = none := by
  unfold deviationRequest
  split <;> rfl

theorem filterMap_closing (current : Int8) :
    c.opening.filterMap Question.write? ++ (c.closing current).filterMap Question.write? =
      c.settings (current ≠ c.daylightSavingDeviation) := by
  by_cases h : current = c.daylightSavingDeviation
  · simp [closing, settings, h]
    rfl
  · simp [closing, settings, h]
    rfl

/-- Attributes that are written differ from each other. -/
theorem pairwise_settings (differs : Bool) :
    (c.settings differs).Pairwise fun p q => q.address.whole ≠ p.address.whole := by
  cases differs <;> simp [settings, attributeAddress, AttributeAddress.whole]

/-- The writes of a request of which only the closing may be incomplete. -/
theorem writes_read {c : Configuration} {device : Device} {current : Int8} {complete : Bool}
    {opening closing : List (Turn Answer)} {read : Turn Answer}
    (hopening : Proceeds Turn.IsAccepted c.opening opening true)
    (hread : read.question = deviationRequest device)
    (hclosing : Proceeds Turn.IsAccepted (c.closing current) closing complete) :
    writes (opening ++ read :: closing) <+: c.settings (current ≠ c.daylightSavingDeviation) ∧
      (complete = true →
        writes (opening ++ read :: closing) = c.settings (current ≠ c.daylightSavingDeviation)) := by
  have hwrites : writes (opening ++ read :: closing) =
      c.opening.filterMap Question.write? ++
        (closing.map Turn.question).filterMap Question.write? := by
    rw [writes_eq_filterMap_question, List.map_append, List.map_cons, hopening.map_question, hread,
      List.filterMap_append, List.filterMap_cons_none (write?_deviationRequest device)]
  rw [hwrites, ← c.filterMap_closing]
  constructor
  · exact (List.prefix_append_right_inj _).mpr (hclosing.isPrefix.filterMap _)
  · rintro rfl
    rw [hclosing.map_question]

end Configuration

/-! ## What is held -/

def attributeOf (id : Int8) : Attribute :=
  ⟨classId, logicalName, id⟩

section Storage

variable {σ : Type} {rules : Rules Answer σ} {held : σ → Attribute → Option Value} {s t : σ}
  {device : Device} {value : Value} {read : Turn Answer}

/-- The deviation that a meter holds is the one that is read. -/
theorem tells_of_held (h : StoresWrites rules held) (hheld : held s (attributeOf 7) = some value)
    (hquestion : read.question = deviationRequest device)
    (hread : rules read.question s read.answer t) : read.Tells value := by
  obtain ⟨question, answer⟩ := read
  dsimp only at hquestion hread
  cases hbatched : device.supportsBatchedRead with
  | false =>
      rw [deviationRequest, hbatched] at hquestion
      subst hquestion
      exact h.read hheld hread
  | true =>
      rw [deviationRequest, hbatched] at hquestion
      subst hquestion
      exact h.readBatch (.cons hheld .nil) hread

/-- The deviation that is read is the one that a meter holds. -/
theorem held_of_tells (h : TellsHeld rules held)
    (hquestion : read.question = deviationRequest device)
    (hread : rules read.question s read.answer t) (htells : read.Tells value) :
    held s (attributeOf 7) = some value := by
  obtain ⟨question, answer⟩ := read
  dsimp only at hquestion hread
  cases hbatched : device.supportsBatchedRead with
  | false =>
      rw [deviationRequest, hbatched] at hquestion
      subst hquestion
      obtain rfl : answer = .ok (.success value) := htells
      exact h.read hread
  | true =>
      rw [deviationRequest, hbatched] at hquestion
      subst hquestion
      obtain rfl : answer = .ok [.success value] := htells
      exact h.readBatch hread

theorem spares_of_mem_settingRequests {id id' : Int8} {value : Value} {question : Question}
    (h : question ∈ settingRequests id value) (hne : id ≠ id') :
    question.Spares (attributeOf id') := by
  simp only [settingRequests, List.mem_cons, List.not_mem_nil, or_false] at h
  obtain rfl | rfl := h
  · trivial
  · intro heq
    exact hne (congrArg Attribute.attributeId heq)

namespace Configuration

variable {c : Configuration}

/-- The meter holds the settings: the offset counted the other way, the ends of daylight saving time,
its deviation, in whichever width, and whether it is in use. -/
structure IsHeldBy (c : Configuration) (held : Attribute → Option Value) : Prop where
  zone : held (attributeOf 3) = some (.int16 (-c.timeZoneOffset))
  daylightSavingBegin : held (attributeOf 5) = some (.octets c.daylightSavingBegin.encode)
  daylightSavingEnd : held (attributeOf 6) = some (.octets c.daylightSavingEnd.encode)
  deviation : ∃ value, held (attributeOf 7) = some value ∧
    value.number? = some c.daylightSavingDeviation.toInt
  enabled : held (attributeOf 8) = some (.boolean c.daylightSavingEnabled)

theorem isSetting_opening : ∀ question ∈ c.opening, question.IsSetting := by
  simp [opening, settingRequests, Question.IsSetting]

theorem isSetting_closing (current : Int8) :
    ∀ question ∈ c.closing current, question.IsSetting := by
  by_cases h : current = c.daylightSavingDeviation
  · simp [closing, settingRequests, Question.IsSetting, h]
  · simp [closing, settingRequests, Question.IsSetting, h]

theorem closing_same (c : Configuration) : c.closing c.daylightSavingDeviation =
    settingRequests 8 (.boolean c.daylightSavingEnabled) := by
  simp [closing]

/-- What is left to do after a deviation that need not change spares the deviation. -/
theorem spares_closing {complete : Bool} {closing : List (Turn Answer)}
    (h : Proceeds Turn.IsAccepted (c.closing c.daylightSavingDeviation) closing complete) :
    ∀ turn ∈ closing, turn.question.Spares (attributeOf 7) := by
  intro turn hmem
  have hquestion := h.isPrefix.subset (List.mem_map_of_mem hmem)
  rw [closing_same] at hquestion
  exact spares_of_mem_settingRequests hquestion (by decide)

/-- After a request that succeeded, a meter that stores what is written holds the settings. -/
theorem Course.isHeldBy (hstores : StoresWrites rules held) (htells : TellsHeld rules held)
    {history : List (Turn Answer)} (htrace : Traces rules s history t)
    (h : c.Course device (.ok ()) history) : c.IsHeldBy (held t) := by
  cases h with
  | @read _ opening read current closing _ hopening hquestion hcurrent hclosing =>
      have hwrites := (writes_read hopening hquestion hclosing).2 rfl
      have hturns : ∀ turn ∈ opening ++ read :: closing,
          (∀ a, turn.question.Spares a) ∨ ∃ parameter, turn = ⟨.write parameter, .ok .success⟩ := by
        rw [List.forall_mem_append, List.forall_mem_cons]
        refine ⟨fun turn hmem => ?_, .inl fun a => ?_, fun turn hmem => ?_⟩
        · exact (hopening.complete_iff.mp rfl turn hmem).spares_or_writes
        · exact hquestion ▸ spares_deviationRequest device a
        · exact (hclosing.complete_iff.mp rfl turn hmem).spares_or_writes
      have hheld {id : Int8} {value : Value} (hmem : ⟨attributeAddress id, value⟩ ∈
          c.settings (current ≠ c.daylightSavingDeviation)) : held t (attributeOf id) = some value :=
        hstores.held_of_mem_writes htrace hturns (hwrites ▸ c.pairwise_settings _) (hwrites ▸ hmem)
      have hdeviation : ∃ value, held t (attributeOf 7) = some value ∧
          value.number? = some c.daylightSavingDeviation.toInt := by
        by_cases hsame : current = c.daylightSavingDeviation
        · subst hsame
          obtain ⟨s₁, -, hrest⟩ := traces_append_iff.mp htrace
          cases hrest with
          | cons hread hlater =>
              obtain ⟨value, hvalue, hnumber⟩ := hcurrent
              refine ⟨value, ?_, hnumber⟩
              rw [hstores.held_eq_of_traces hlater (spares_closing hclosing),
                hstores.spared (hquestion ▸ spares_deviationRequest device _) hread]
              exact held_of_tells htells hquestion hread hvalue
        · exact ⟨.int8 c.daylightSavingDeviation, hheld (by simp [settings, hsame]), rfl⟩
      exact ⟨hheld (by simp [settings]), hheld (by simp [settings]), hheld (by simp [settings]),
        hdeviation, hheld (by simp [settings])⟩

/-- The deviation that a meter holds is the one that is read after the opening. -/
theorem tells_after_opening (hstores : StoresWrites rules held) {value : Value}
    (hheld : held s (attributeOf 7) = some value) {opening later : List (Turn Answer)}
    {complete : Bool} (hopening : Proceeds Turn.IsAccepted c.opening opening complete)
    (hquestion : read.question = deviationRequest device)
    (htrace : Traces rules s (opening ++ read :: later) t) : read.Tells value := by
  have hspares : ∀ turn ∈ opening, turn.question.Spares (attributeOf 7) := by
    intro turn hmem
    have hmem := hopening.isPrefix.subset (List.mem_map_of_mem hmem)
    simp only [Configuration.opening, List.mem_append] at hmem
    rcases hmem with hmem | hmem | hmem
    all_goals exact spares_of_mem_settingRequests hmem (by decide)
  obtain ⟨s₁, hfirst, hrest⟩ := traces_append_iff.mp htrace
  cases hrest with
  | cons hread _ =>
      rw [← hstores.held_eq_of_traces hfirst hspares] at hheld
      exact tells_of_held hstores hheld hquestion hread

/-- A meter that stores what is written and holds the deviation is not told it again: what is written
is a part of the other settings from the beginning, and all of them if the request succeeds, as it does
if every write is accepted. -/
theorem Course.writes_of_held (hstores : StoresWrites rules held) {value : Value}
    (hheld : held s (attributeOf 7) = some value)
    (hnumber : value.number? = some c.daylightSavingDeviation.toInt)
    (hzone : c.timeZoneOffset ≠ Int16.minValue) {outcome : Outcome Unit}
    {history : List (Turn Answer)} (htrace : Traces rules s history t)
    (h : c.Course device outcome history) :
    writes history <+: c.settings false ∧ (outcome = .ok () → writes history = c.settings false) ∧
      ((∀ parameter answer, ⟨.write parameter, answer⟩ ∈ history → answer = .ok .success) →
        outcome = .ok ()) := by
  have hsettings : c.opening.filterMap Question.write? ++
      (c.closing c.daylightSavingDeviation).filterMap Question.write? = c.settings false := by
    simpa using c.filterMap_closing c.daylightSavingDeviation
  cases h with
  | excluded hmin => exact absurd hmin hzone
  | refused _ hopening =>
      refine ⟨?_, nofun, fun hwrites => ?_⟩
      · rw [writes_eq_filterMap_question, ← hsettings]
        exact (hopening.isPrefix.filterMap _).trans (List.prefix_append _ _)
      · cases hopening.complete_of_writes isSetting_opening hwrites
  | unreadable _ hopening hquestion hunreadable =>
      have htells := tells_after_opening hstores hheld hopening hquestion htrace
      exact absurd ⟨value, htells, hnumber⟩ (hunreadable c.daylightSavingDeviation)
  | @read _ opening read current closing _ hopening hquestion hcurrent hclosing =>
      have htells := tells_after_opening hstores hheld hopening hquestion htrace
      obtain ⟨other, hother, hcurrent⟩ := hcurrent
      obtain rfl := htells.unique hother
      obtain rfl : current = c.daylightSavingDeviation :=
        Int8.toInt_inj.mp (Option.some.inj (hcurrent.symm.trans hnumber))
      have hwrites := writes_read hopening hquestion hclosing
      rw [← c.filterMap_closing, hsettings] at hwrites
      refine ⟨hwrites.1, ?_, fun haccepted => ?_⟩
      · rintro rfl
        exact hwrites.2 rfl
      · have hcomplete : outcome.isOk = true := by
          apply hclosing.complete_of_writes (isSetting_closing _)
          intro parameter answer hmem
          exact haccepted parameter answer (List.mem_append_right _ (List.mem_cons_of_mem _ hmem))
        cases outcome with
        | error failure => cases hcomplete
        | ok _ => rfl

end Configuration

end Storage

/-- The settings are written in their order, up to the first that is not accepted, with the deviation
only if the one that was read is another. If the request succeeds on a meter that stores what is
written, the meter holds the settings, and the same request made again writes all of them but the
deviation, up to the first that is not accepted. -/
theorem configure_writes_in_order (c : Configuration) {σ : Type} (rules : Rules Answer σ)
    (device d : Device) (s t : σ) (outcome : Outcome Unit)
    (hruns : Dialogue.Runs rules
      ((Command.setClockConfiguration.execute c).run.run device) s (outcome, d) t) :
    d = device ∧ ∃ history, Traces rules s history t ∧ c.Course device outcome history ∧
      ∀ held, StoresWrites rules held → TellsHeld rules held → outcome = .ok () →
        c.IsHeldBy (held t) ∧
        ∀ device' d' u outcome', Dialogue.Runs rules
            ((Command.setClockConfiguration.execute c).run.run device') t (outcome', d') u →
          ∃ later, Traces rules t later u ∧ c.Course device' outcome' later ∧
            writes later <+: c.settings false ∧
            (outcome' = .ok () → writes later = c.settings false) ∧
            ((∀ parameter answer, ⟨.write parameter, answer⟩ ∈ later → answer = .ok .success) →
              outcome' = .ok ()) := by
  obtain ⟨history, htrace, hrecorded⟩ := hruns.exists_trace []
  obtain ⟨rfl, hcourse⟩ := c.ensures_configure_course device _ _ hrecorded
  refine ⟨rfl, history, htrace, hcourse, ?_⟩
  rintro held hstores htells rfl
  have hheld := hcourse.isHeldBy hstores htells htrace
  refine ⟨hheld, fun device' d' u outcome' hagain => ?_⟩
  obtain ⟨value, hvalue, hnumber⟩ := hheld.deviation
  obtain ⟨later, hlater, hrecorded⟩ := hagain.exists_trace []
  obtain ⟨-, hcourse'⟩ := c.ensures_configure_course device' _ _ hrecorded
  have hzone : c.timeZoneOffset ≠ Int16.minValue := by
    cases hcourse
    assumption
  exact ⟨later, hlater, hcourse',
    hcourse'.writes_of_held hstores hvalue hnumber hzone hlater⟩

/-- An hour ahead of UTC, and another hour between the last Sundays of March and of October. -/
def lastSundays : Configuration where
  timeZoneOffset := 60
  daylightSavingBegin := ⟨0xFFFF, 3, 0xFE, 7, 2, 0, 0, 0, -60, 0⟩
  daylightSavingEnd := ⟨0xFFFF, 10, 0xFE, 7, 3, 0, 0, 0, -120, 0⟩
  daylightSavingDeviation := 60
  daylightSavingEnabled := true

/-- A meter that holds no deviation but zero, in sixteen bits. -/
def undeviated (a : Attribute) : Option Value :=
  if a = attributeOf 7 then some (.int16 0) else none

/-- The meter is told another deviation, and a second time everything but the deviation. -/
theorem configure_writes_in_order_of_undeviated :
    ∃ held again later,
      Dialogue.Runs (fun question s answer t => storingWorld question s = (answer, t))
        ((Command.setClockConfiguration.execute lastSundays).run.run keyedDevice) undeviated
        (.ok (), keyedDevice) held ∧
      lastSundays.IsHeldBy held ∧
      Dialogue.Runs (fun question s answer t => storingWorld question s = (answer, t))
        ((Command.setClockConfiguration.execute lastSundays).run.run keyedDevice) held
        (.ok (), keyedDevice) again ∧
      Traces (fun question s answer t => storingWorld question s = (answer, t)) held later again ∧
      writes later = lastSundays.settings false := by
  have hfirst := runs_storingWorld
    ((Command.setClockConfiguration.execute lastSundays).run.run keyedDevice) undeviated
  have hsecond := runs_storingWorld
    ((Command.setClockConfiguration.execute lastSundays).run.run keyedDevice)
    (((Command.setClockConfiguration.execute lastSundays).run.run keyedDevice).run storingWorld
      undeviated).2
  obtain ⟨-, _, -, -, hheld⟩ := configure_writes_in_order lastSundays _ keyedDevice keyedDevice
    undeviated _ (.ok ()) hfirst
  obtain ⟨hheld, hagain⟩ := hheld id storesWrites_storingWorld tellsHeld_storingWorld rfl
  obtain ⟨later, hlater, -, -, hwrites, -⟩ := hagain keyedDevice keyedDevice _ (.ok ()) hsecond
  exact ⟨_, _, later, hfirst, hheld, hsecond, hlater, hwrites rfl⟩

end Clock

end HeadEnd
