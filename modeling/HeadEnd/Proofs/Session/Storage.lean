import HeadEnd.Proofs.Key.Staging
import HeadEnd.Proofs.Session.Batching
import Mathlib.Data.List.Forall2

/-! # Meters that store what is written

A meter holds a value in some of its attributes. What it holds can be read, one attribute at a time
or several with one request, and a write that it accepts changes the attribute that it is for and no
other.
-/

namespace HeadEnd

/-- An attribute of an object, all of it. -/
structure Attribute where
  classId : UInt16
  name : ObisCode
  attributeId : Int8
  deriving DecidableEq

def Attribute.address (a : Attribute) : AttributeAddress :=
  { classId := a.classId, name := a.name, attributeId := a.attributeId }

/-- The attribute that an address is about, be it all of it or part. -/
def AttributeAddress.whole (address : AttributeAddress) : Attribute :=
  ⟨address.classId, address.name, address.attributeId⟩

@[simp] theorem Attribute.whole_address (a : Attribute) : a.address.whole = a := rfl

/-- The question is a read, a note, or a write of another attribute. -/
def Question.Spares (a : Attribute) : Question → Prop
  | .read _ => True
  | .readBatch _ => True
  | .describe _ => True
  | .write parameter => parameter.address.whole ≠ a
  | _ => False

section Storage

variable {σ : Type} {rules : Rules Answer σ} {held : σ → Attribute → Option Value}

/-- The meter stores what is written. In a state of the world it holds a value in some attributes: a
read of such attributes succeeds with the values, an accepted write puts its value in its attribute,
and neither changes what other attributes hold. -/
structure StoresWrites (rules : Rules Answer σ) (held : σ → Attribute → Option Value) : Prop where
  read : ∀ {s t a value answer}, held s a = some value →
    rules (.read a.address) s answer t → answer = .ok (.success value)
  readBatch : ∀ {s t attributes values answer},
    List.Forall₂ (fun a value => held s a = some value) attributes values →
    rules (.readBatch (attributes.map Attribute.address)) s answer t →
    answer = .ok (values.map GetResult.success)
  write : ∀ {s t a value}, rules (.write ⟨a.address, value⟩) s (.ok .success) t →
    held t a = some value
  spared : ∀ {question s t answer a}, question.Spares a →
    rules question s answer t → held t a = held s a

namespace StoresWrites

variable {s t : σ}

theorem held_eq_of_read (h : StoresWrites rules held) {address : AttributeAddress}
    {answer : Outcome GetResult} (hrules : rules (.read address) s answer t) : held t = held s :=
  funext fun a => h.spared (show Question.Spares a (.read address) from trivial) hrules

theorem held_eq_of_readBatch (h : StoresWrites rules held) {addresses : List AttributeAddress}
    {answer : Outcome (List GetResult)} (hrules : rules (.readBatch addresses) s answer t) :
    held t = held s :=
  funext fun a => h.spared (show Question.Spares a (.readBatch addresses) from trivial) hrules

theorem held_eq_of_describe (h : StoresWrites rules held) {text : String}
    (hrules : rules (.describe text) s () t) : held t = held s :=
  funext fun a => h.spared (show Question.Spares a (.describe text) from trivial) hrules

/-- A meter stores what is written also where a log is kept. -/
theorem logging (h : StoresWrites rules held) :
    StoresWrites (logging rules) fun s => held s.1 where
  read hheld hrules := h.read hheld hrules.1
  readBatch hheld hrules := h.readBatch hheld hrules.1
  write hrules := h.write hrules.1
  spared hspares hrules := h.spared hspares hrules.1

/-- What the turns of a trace spare is held as before. -/
theorem held_eq_of_traces (h : StoresWrites rules held) {history : List (Turn Answer)}
    (htrace : Traces rules s history t) {a : Attribute}
    (hspares : ∀ turn ∈ history, turn.question.Spares a) : held t a = held s a := by
  induction htrace with
  | nil => rfl
  | cons hturn _ ih =>
      obtain ⟨hfirst, hrest⟩ := List.forall_mem_cons.mp hspares
      exact (ih hrest).trans (h.spared hfirst hturn)

/-- If every write of a trace is accepted, and none is of an attribute that was written before, then
what was written is held in the end. -/
theorem held_of_mem_writes (h : StoresWrites rules held) {history : List (Turn Answer)}
    (htrace : Traces rules s history t)
    (hturns : ∀ turn ∈ history,
      (∀ a, turn.question.Spares a) ∨ ∃ parameter, turn = ⟨.write parameter, .ok .success⟩)
    (hdistinct : (writes history).Pairwise fun p q => q.address.whole ≠ p.address.whole)
    {a : Attribute} {value : Value} (hmem : ⟨a.address, value⟩ ∈ writes history) :
    held t a = some value := by
  induction htrace with
  | nil => cases hmem
  | @cons s turn s' history t hturn hrest ih =>
      obtain ⟨hfirst, hlater⟩ := List.forall_mem_cons.mp hturns
      rcases hfirst with hspares | ⟨parameter, rfl⟩
      · have hnone : turn.write? = none := by
          obtain ⟨question, answer⟩ := turn
          cases question with
          | write parameter => exact absurd rfl (hspares parameter.address.whole)
          | _ => rfl
        have hwrites : writes (turn :: history) = writes history := List.filterMap_cons_none hnone
        rw [hwrites] at hdistinct hmem
        exact ih hlater hdistinct hmem
      · have hwrites : writes (⟨.write parameter, .ok .success⟩ :: history) =
            parameter :: writes history := rfl
        rw [hwrites] at hdistinct hmem
        obtain ⟨hothers, hdistinct⟩ := List.pairwise_cons.mp hdistinct
        rcases List.mem_cons.mp hmem with rfl | hmem
        · have hspares : ∀ turn ∈ history, turn.question.Spares a := by
            intro turn hmem
            rcases hlater turn hmem with hspares | ⟨parameter, rfl⟩
            · exact hspares a
            · exact hothers parameter (List.mem_filterMap.mpr ⟨_, hmem, rfl⟩)
          rw [h.held_eq_of_traces hrest hspares]
          exact h.write hturn
        · exact ih hlater hdistinct hmem

end StoresWrites

/-- What is read of an attribute, on its own or as the only one of a request, is what the meter
holds. -/
structure TellsHeld (rules : Rules Answer σ) (held : σ → Attribute → Option Value) : Prop where
  read : ∀ {s t a value}, rules (.read a.address) s (.ok (.success value)) t →
    held s a = some value
  readBatch : ∀ {s t a value}, rules (.readBatch [a.address]) s (.ok [.success value]) t →
    held s a = some value

namespace Operation

variable {device : Device} {s : σ}

/-- What attributes hold is read one after the other. -/
theorem answersEach_of_held (h : StoresWrites rules held) {attributes : List Attribute}
    {values : List Value}
    (hheld : List.Forall₂ (fun a value => held s a = some value) attributes values)
    {outcome : Outcome (List GetResult)} {t : σ}
    (hanswers : AnswersEach rules (attributes.map Attribute.address) s outcome t) :
    outcome = .ok (values.map GetResult.success) ∧ held t = held s := by
  -- Reads leave what is held as it is, so the induction is on the list at what is held throughout.
  generalize hnow : held s = now at hheld
  induction hheld generalizing s outcome with
  | nil =>
      cases hanswers
      exact ⟨rfl, hnow⟩
  | cons hvalue _ ih =>
      subst hnow
      cases hanswers with
      | lost hlost => cases h.read hvalue hlost
      | next hread hnext =>
          obtain ⟨rfl, hheld⟩ := ih hnext (h.held_eq_of_read hread)
          cases h.read hvalue hread
          exact ⟨rfl, hheld⟩

/-- What several attributes hold is read, by whichever means, and stays as it is. -/
theorem ensures_readAll_of_held (h : StoresWrites rules held) {attributes : List Attribute}
    {values : List Value}
    (hheld : List.Forall₂ (fun a value => held s a = some value) attributes values) :
    Task.Ensures rules (readAll (attributes.map Attribute.address)) device s fun outcome d t =>
      (∃ hlength, outcome = .ok ⟨values.map GetResult.success, hlength⟩) ∧ d = device ∧
        held t = held s := by
  have hlength : (values.map GetResult.success).length =
      (attributes.map Attribute.address).length := by simp [hheld.length_eq]
  intro r t hruns
  obtain ⟨outcome, rfl, hanswer⟩ := runs_readAll_iff.mp hruns
  have hread : outcome = .ok (values.map GetResult.success) ∧ held t = held s := by
    split at hanswer
    · exact ⟨h.readBatch hheld hanswer, h.held_eq_of_readBatch hanswer⟩
    · exact answersEach_of_held h hheld hanswer
  obtain ⟨rfl, hkept⟩ := hread
  exact ⟨⟨hlength, dif_pos hlength⟩, rfl, hkept⟩

theorem checkAll_success (context : String) (values : List Value) :
    checkAll context (values.map GetResult.success) = .ok () := by
  induction values with
  | nil => rfl
  | cons value values ih => exact ih

theorem ensures_readValues_of_held (h : StoresWrites rules held) (context : String)
    {attributes : List Attribute} {values : List Value}
    (hheld : List.Forall₂ (fun a value => held s a = some value) attributes values) :
    Task.Ensures rules (readValues context (attributes.map Attribute.address)) device s
      fun outcome d t =>
        (∃ hlength, outcome = .ok ⟨values, hlength⟩) ∧ d = device ∧ held t = held s := by
  unfold readValues readChecked
  simp only [Task.ensures_bind]
  refine (ensures_readAll_of_held h hheld).imp ?_
  rintro _ d t ⟨⟨hlength, rfl⟩, rfl, hkept⟩
  dsimp only
  rw [checkAll_success, ensures_lift]
  simp only [Task.ensures_pure]
  refine ⟨⟨by simpa using hlength, ?_⟩, trivial, hkept⟩
  simp [GetResult.success, Function.comp_def]

theorem ensures_readValue_of_held (h : StoresWrites rules held) (context : String)
    {a : Attribute} {value : Value} (hheld : held s a = some value) :
    Task.Ensures rules (readValue context a.address) device s fun outcome d t =>
      outcome = .ok value ∧ d = device ∧ held t = held s := by
  unfold readValue
  rw [Task.ensures_bind]
  refine (ensures_readValues_of_held h context (.cons hheld .nil)).imp ?_
  rintro _ d t ⟨⟨hlength, rfl⟩, rfl, hkept⟩
  exact Task.ensures_pure.mpr ⟨rfl, rfl, hkept⟩

/-- Reading an attribute leaves no trace in a log. -/
theorem ensures_readValue_logged (h : StoresWrites rules held) (context : String) {a : Attribute}
    {value : Value} (hheld : held s a = some value) (log : List (Turn Answer)) :
    Task.Ensures (logging rules) (readValue context a.address) device (s, log) fun outcome d t =>
      outcome = .ok value ∧ d = device ∧ held t.1 = held s ∧ t.2 = log := by
  intro r t hruns
  obtain ⟨houtcome, hdevice, hkept⟩ := ensures_readValue_of_held h.logging context hheld r t hruns
  have hreads : Task.Keeps (fun question => ∀ answer, Turn.effect? ⟨question, answer⟩ = none)
      (readValue context a.address) := keeps_readValue context (fun _ => rfl) fun _ => rfl
  have hlog : Task.Ensures (logging rules) (readValue context a.address) device (s, log)
      fun _ d t => d = device ∧ t.2 = log := by
    refine hreads.ensures ?_ rfl
    rintro question past answer later hquestion ⟨-, hlater⟩ rfl
    rw [hlater, hquestion]
    exact List.append_nil _
  exact ⟨houtcome, hdevice, hkept, (hlog r t hruns).2⟩

end Operation

end Storage

/-! ## A meter of which nothing is known but what it holds -/

/-- What is read at an address of a meter that holds this. -/
def lookUp (held : Attribute → Option Value) (address : AttributeAddress) : GetResult :=
  match held address.whole with
  | some value => .success value
  | none => .refusal .objectUndefined

/-- A world in which nothing goes wrong, with a meter that accepts every write. -/
def storingWorld : (question : Question) → (Attribute → Option Value) →
    Answer question × (Attribute → Option Value)
  | .read address, held => (.ok (lookUp held address), held)
  | .readBatch addresses, held => (.ok (addresses.map (lookUp held)), held)
  | .write parameter, held =>
    (.ok .success, Function.update held parameter.address.whole (some parameter.value))
  | question, held => (obligingAnswer question, held)

/-- How a session runs in that world. -/
theorem runs_storingWorld {α : Type} (session : Session α) (held : Attribute → Option Value) :
    Dialogue.Runs (fun question s answer t => storingWorld question s = (answer, t)) session held
      (session.run storingWorld held).1 (session.run storingWorld held).2 :=
  (Dialogue.runs_iff_run_eq storingWorld).mpr rfl

theorem lookUp_address {held : Attribute → Option Value} {a : Attribute} {value : Value}
    (h : held a = some value) : lookUp held a.address = .success value := by
  simp [lookUp, h]

theorem storesWrites_storingWorld :
    StoresWrites (fun question held answer held' => storingWorld question held = (answer, held'))
      id where
  read hheld hanswer := by
    cases hanswer
    exact congrArg Except.ok (lookUp_address hheld)
  readBatch := by
    intro held held' attributes values answer hheld hanswer
    cases hanswer
    refine congrArg Except.ok ?_
    induction hheld with
    | nil => rfl
    | cons hvalue _ ih => exact congrArg₂ List.cons (lookUp_address hvalue) ih
  write hanswer := by
    cases hanswer
    exact Function.update_self ..
  spared := by
    intro question held held' answer a hspares hanswer
    cases question with
    | write parameter =>
        cases hanswer
        exact Function.update_of_ne (Ne.symm hspares) ..
    | read _ | readBatch _ | describe _ =>
        cases hanswer
        rfl
    | _ => exact hspares.elim

theorem eq_of_lookUp {held : Attribute → Option Value} {a : Attribute} {value : Value}
    (h : lookUp held a.address = .success value) : held a = some value := by
  unfold lookUp at h
  rw [Attribute.whole_address] at h
  cases hvalue : held a with
  | none =>
      rw [hvalue] at h
      cases h
  | some other =>
      rw [hvalue] at h
      exact congrArg some (congrArg GetResult.value h)

theorem tellsHeld_storingWorld :
    TellsHeld (fun question held answer held' => storingWorld question held = (answer, held'))
      id where
  read := by
    intro held held' a value hanswer
    exact eq_of_lookUp (Except.ok.inj (Prod.mk.inj hanswer).1)
  readBatch := by
    intro held held' a value hanswer
    exact eq_of_lookUp (List.cons.inj (Except.ok.inj (Prod.mk.inj hanswer).1)).1

end HeadEnd
