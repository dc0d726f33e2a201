import HeadEnd.Proofs.Association.Reading
import HeadEnd.Proofs.Profile.Entries
import HeadEnd.Proofs.Push.Reading

/-! # Decoding tells all or where it failed

Every reader of a value comes to exactly what the value holds, whatever integers the value is made
of: no number is cut off and no element of a list is lost. Otherwise it fails to decode, and a
reader that is told a context names it.
-/

namespace HeadEnd

/-! ## Contexts -/

/-- The outcome is no failure but one to decode, the context of which contains the given one. -/
def FailsIn {α : Type} (context : String) (outcome : Outcome α) : Prop :=
  ∀ failure, outcome = .error failure →
    ∃ before after fault, failure = .decode (before ++ context ++ after) fault

section Combinators

variable {α β : Type} {context : String}

theorem failsIn_pure (a : α) : FailsIn context (pure a) := by
  intro failure h
  cases h

theorem failsIn_error (fault : Misreading) :
    FailsIn context (.error (.decode context fault) : Outcome α) := by
  rintro _ ⟨⟩
  exact ⟨"", "", fault, by simp⟩

theorem FailsIn.bind {outcome : Outcome α} {f : α → Outcome β} (h : FailsIn context outcome)
    (hf : ∀ a, FailsIn context (f a)) : FailsIn context (outcome >>= f) := by
  cases outcome with
  | ok a => exact hf a
  | error failure =>
      rintro _ ⟨⟩
      exact h failure rfl

theorem FailsIn.map {outcome : Outcome α} (h : FailsIn context outcome) (f : α → β) :
    FailsIn context (outcome.map f) := by
  cases outcome with
  | ok a => exact failsIn_pure (f a)
  | error failure =>
      rintro _ ⟨⟩
      exact h failure rfl

theorem failsIn_mapM {f : α → Outcome β} (hf : ∀ a, FailsIn context (f a)) (xs : List α) :
    FailsIn context (xs.mapM f) := by
  induction xs with
  | nil => exact failsIn_pure []
  | cons x xs ih =>
      rw [List.mapM_cons]
      exact (hf x).bind fun y => ih.bind fun ys => failsIn_pure (y :: ys)

/-- A failure that names a part of the value within the context names the context. -/
theorem FailsIn.within {part : String} {outcome : Outcome α}
    (h : FailsIn (part ++ context) outcome) : FailsIn context outcome := by
  intro failure hfailure
  obtain ⟨before, after, fault, rfl⟩ := h failure hfailure
  exact ⟨before ++ part, after, fault, by simp only [String.append_assoc]⟩

end Combinators

namespace Value

variable (value : Value) (context : String)

theorem failsIn_toInteger? : FailsIn context (value.toInteger? context) := by
  unfold toInteger?
  split
  · exact failsIn_pure none
  · split
    · exact failsIn_pure (some _)
    · exact failsIn_error _

theorem failsIn_toInteger : FailsIn context (value.toInteger context) := by
  refine (value.failsIn_toInteger? context).bind fun number => ?_
  cases number with
  | some n => exact failsIn_pure n
  | none => exact failsIn_error _

theorem failsIn_narrowed {α : Type} [Narrow α] (number : Int64) :
    FailsIn context (narrowed number context : Outcome α) := by
  unfold narrowed
  split
  · exact failsIn_pure _
  · exact failsIn_error _

theorem failsIn_toNarrow {α : Type} [Narrow α] :
    FailsIn context (value.toNarrow context : Outcome α) :=
  (value.failsIn_toInteger context).bind (failsIn_narrowed context)

theorem failsIn_toNarrow? {α : Type} [Narrow α] :
    FailsIn context (value.toNarrow? context : Outcome (Option α)) := by
  refine (value.failsIn_toInteger? context).bind fun number => ?_
  cases number with
  | some n => exact (failsIn_narrowed context n).map some
  | none => exact failsIn_pure none

theorem failsIn_toCode {α : Type} (table : CodeTable) (ofCode? : Int64 → Option α) :
    FailsIn context (value.toCode table ofCode? context) := by
  refine (value.failsIn_toInteger context).bind fun code => ?_
  cases ofCode? code with
  | some a => exact failsIn_pure a
  | none => exact failsIn_error _

theorem failsIn_toText : FailsIn context (value.toText context) := by
  have hbytes : FailsIn context (value.toBytes? context) := by
    unfold toBytes?
    split
    · exact failsIn_pure none
    · split
      · exact failsIn_pure (some _)
      · exact failsIn_error _
  have htext : FailsIn context (value.toText? context) := by
    refine hbytes.bind fun found => ?_
    cases found with
    | none => exact failsIn_pure none
    | some bytes =>
        dsimp only
        split
        · exact failsIn_pure (some _)
        · exact failsIn_error _
  refine htext.bind fun text => ?_
  cases text with
  | some text => exact failsIn_pure text
  | none => exact failsIn_error _

theorem failsIn_toLogicalName : FailsIn context (value.toLogicalName context) := by
  unfold toLogicalName
  split
  · exact failsIn_pure _
  · exact failsIn_error _

theorem failsIn_toElements : FailsIn context (value.toElements context) := by
  unfold toElements
  split
  · exact failsIn_pure []
  · split
    · exact failsIn_pure _
    · exact failsIn_error _

theorem failsIn_toStructure (count : Nat) : FailsIn context (value.toStructure context count) := by
  unfold toStructure
  split
  · split
    · exact failsIn_pure _
    · exact failsIn_error _
  · exact failsIn_error _

theorem failsIn_toDateTime : FailsIn context (value.toDateTime context) := by
  have hoptional : FailsIn context (value.toDateTime? context) := by
    unfold toDateTime?
    split
    · exact failsIn_pure none
    · exact failsIn_pure (some _)
    · split
      · split
        · exact failsIn_pure (some _)
        · exact failsIn_error _
      · exact failsIn_error _
    · exact failsIn_error _
  refine hoptional.bind fun t => ?_
  cases t with
  | some t => exact failsIn_pure t
  | none => exact failsIn_error _

theorem failsIn_toScalerUnit : FailsIn context (value.toScalerUnit context) := by
  unfold toScalerUnit
  split
  · exact (failsIn_toNarrow _ context).bind fun _ => (failsIn_toInteger _ context).bind fun _ =>
      failsIn_pure _
  · exact failsIn_error _

theorem failsIn_toMeterValue? (scalerUnit : Value) :
    FailsIn context (value.toMeterValue? scalerUnit context) := by
  refine (value.failsIn_toInteger? context).bind fun number => ?_
  cases number with
  | none => exact failsIn_pure none
  | some raw => exact (scalerUnit.failsIn_toScalerUnit context).bind fun _ => failsIn_pure _

theorem failsIn_toObjectDefinition : FailsIn context (value.toObjectDefinition context) := by
  refine (value.failsIn_toStructure context 4).bind fun | ⟨[_, _, _, _], _⟩ => ?_
  exact (failsIn_toNarrow _ _).within.bind fun _ => (failsIn_toLogicalName _ _).within.bind fun _ =>
    (failsIn_toNarrow _ _).within.bind fun _ => (failsIn_toNarrow _ _).within.bind fun _ =>
    failsIn_pure _

theorem failsIn_toPushDestination : FailsIn context (value.toPushDestination context) := by
  rw [toPushDestination_eq]
  refine (value.failsIn_toStructure context 3).bind fun | ⟨[_, _, _], _⟩ => ?_
  exact (failsIn_toCode _ _ _ _).within.bind fun _ => (failsIn_toText _ _).within.bind fun _ =>
    (failsIn_toCode _ _ _ _).within.bind fun _ => failsIn_pure _

theorem failsIn_toPushWindow : FailsIn context (value.toPushWindow context) := by
  refine (value.failsIn_toStructure context 2).bind fun | ⟨[_, _], _⟩ => ?_
  exact (failsIn_toDateTime _ _).within.bind fun _ => (failsIn_toDateTime _ _).within.bind fun _ =>
    failsIn_pure _

/-- What is read of a list element by element names the context of the list. -/
theorem failsIn_toElements_mapM {α : Type} {part : String} {read : Value → String → Outcome α}
    (hread : ∀ element context, FailsIn context (read element context)) :
    FailsIn context (value.toElements context >>= fun elements =>
      elements.mapM fun element => read element (part ++ context)) :=
  (value.failsIn_toElements context).bind
    (failsIn_mapM fun element => (hread element _).within)

end Value

/-! ## Readers -/

/-- The outcome is exactly the result of which `means` holds, if there is one; otherwise it is a
failure to decode, the context of which contains the given one. -/
structure DecodesIn {α : Type} (context : String) (outcome : Outcome α) (means : α → Prop) :
    Prop where
  decodes : Decodes outcome means
  context : FailsIn context outcome

/-- Whatever value a reader is given, it comes to what the value tells: numbers are those that stand
at their places, whichever integers they are written as, and lists have all elements in their order.
Any other value is a failure to decode, and where the reader is told a context, the failure names
it. -/
theorem readers_exact (value : Value) (context : String) :
    DecodesIn context (value.toInteger? context) (value.TellsNumber? Int64.toInt) ∧
    DecodesIn context (value.toInteger context) (fun n => value.number? = some n.toInt) ∧
    DecodesIn context (value.toScalerUnit context) (fun s => s.IsToldBy value) ∧
    (∀ scalerUnit, DecodesIn context (value.toMeterValue? scalerUnit context)
      (MeterValue.Told scalerUnit (some value))) ∧
    DecodesIn context (value.toObjectDefinition context) (fun d => d.IsToldBy value) ∧
    DecodesIn context (value.toObjectDefinitions context)
      (value.Lists ObjectDefinition.IsToldBy) ∧
    DecodesIn context (value.toPushDestination context) (fun d => d.IsToldBy value) ∧
    DecodesIn context (value.toPushWindow context) (fun w => w.IsToldBy value) ∧
    DecodesIn context (value.toPushWindows context) (value.Lists PushWindow.IsToldBy) ∧
    DecodesIn context (value.toNarrow? context) (value.TellsNumber? fun n : UInt16 => n.toNat) ∧
    DecodesIn context (value.toNarrow? context) (value.TellsNumber? fun n : UInt8 => n.toNat) ∧
    Decodes (Association.readObject value) (fun item => item.IsToldBy value) ∧
    Decodes (Association.readObjects value context) (value.Lists Association.ObjectItem.IsToldBy) ∧
    Decodes value.toProfileFlags (fun flags => ProfileFlag.Told (some value) (some flags)) ∧
    Decodes (value.toNarrow "alarm filter" : Outcome UInt32)
      (fun filter => value.number? = some (filter.toNat : Int)) :=
  ⟨⟨value.decodes_toInteger? context, value.failsIn_toInteger? context⟩,
    ⟨value.decodes_toInteger context, value.failsIn_toInteger context⟩,
    ⟨value.decodes_toScalerUnit context, value.failsIn_toScalerUnit context⟩,
    fun scalerUnit => ⟨value.decodes_toMeterValue? scalerUnit context,
      value.failsIn_toMeterValue? context scalerUnit⟩,
    ⟨value.decodes_toObjectDefinition context, value.failsIn_toObjectDefinition context⟩,
    ⟨value.decodes_toObjectDefinitions context,
      value.failsIn_toElements_mapM context Value.failsIn_toObjectDefinition⟩,
    ⟨value.decodes_toPushDestination context, value.failsIn_toPushDestination context⟩,
    ⟨value.decodes_toPushWindow context, value.failsIn_toPushWindow context⟩,
    ⟨value.decodes_toPushWindows context,
      value.failsIn_toElements_mapM context Value.failsIn_toPushWindow⟩,
    ⟨value.decodes_toUInt16? context, value.failsIn_toNarrow? context⟩,
    ⟨value.decodes_toUInt8? context, value.failsIn_toNarrow? context⟩,
    Association.decodes_readObject value, Association.decodes_readObjects value context,
    value.decodes_toProfileFlags, value.decodes_toUInt32 "alarm filter"⟩

/-- A number of retries that eight bits do not hold is not cut off. -/
example : ((Value.int16 300).toNarrow? "retries" : Outcome (Option UInt8)) =
    .error (.decode "retries" (.outOfRange 300)) := rfl

end HeadEnd
