import HeadEnd.Proofs.Dialogue.Task

/-! # Plans

The questions that a task asks one after the other if all goes well. At the first answer that is not
a success the task ends, and it fails; so its history is a part of its plan from the beginning, and
all of it only if the task succeeds.
-/

namespace HeadEnd

variable {Q : Type} {A : Q → Type} {succeeds : Turn A → Prop}

/-- The history has a turn for each question of the plan, in their order, up to the first turn that
does not succeed. It is complete if there is no such turn. -/
inductive Proceeds (succeeds : Turn A → Prop) : List Q → List (Turn A) → Bool → Prop
  | complete : Proceeds succeeds [] [] true
  | stopped {question answer plan} : ¬ succeeds ⟨question, answer⟩ →
      Proceeds succeeds (question :: plan) [⟨question, answer⟩] false
  | next {question answer plan history complete} : succeeds ⟨question, answer⟩ →
      Proceeds succeeds plan history complete →
      Proceeds succeeds (question :: plan) (⟨question, answer⟩ :: history) complete

namespace Proceeds

variable {plan more : List Q} {history later : List (Turn A)} {complete : Bool}

/-- After a plan that was completed, the next one begins. -/
theorem append (h : Proceeds succeeds plan history true)
    (hlater : Proceeds succeeds more later complete) :
    Proceeds succeeds (plan ++ more) (history ++ later) complete := by
  generalize hcomplete : true = completed at h
  induction h with
  | complete => exact hlater
  | stopped => cases hcomplete
  | next hturn _ ih => exact .next hturn (ih hcomplete)

/-- What would come after a plan makes no difference if the plan was not completed. -/
theorem stop (h : Proceeds succeeds plan history false) (more : List Q) :
    Proceeds succeeds (plan ++ more) history false := by
  generalize hcomplete : false = completed at h
  induction h with
  | complete => cases hcomplete
  | stopped hturn => exact .stopped hturn
  | next hturn _ ih => exact .next hturn (ih hcomplete)

theorem isPrefix (h : Proceeds succeeds plan history complete) :
    history.map Turn.question <+: plan := by
  induction h with
  | complete => exact List.prefix_rfl
  | @stopped question _ plan _ => exact List.prefix_append [question] plan
  | next _ _ ih => exact (List.prefix_cons_inj _).mpr ih

theorem map_question (h : Proceeds succeeds plan history true) :
    history.map Turn.question = plan := by
  generalize hcomplete : true = completed at h
  induction h with
  | complete => rfl
  | stopped => cases hcomplete
  | next _ _ ih => rw [List.map_cons, ih hcomplete]

/-- A history is complete exactly if all its turns succeed. -/
theorem complete_iff (h : Proceeds succeeds plan history complete) :
    complete = true ↔ ∀ turn ∈ history, succeeds turn := by
  induction h with
  | complete => simp
  | stopped hturn => simp [hturn]
  | next hturn _ ih => simp [hturn, ih]

end Proceeds

namespace Task

variable {ε δ α β : Type} {plan more : List Q}

/-- The task leaves its own state as it is, asks the questions of the plan, and succeeds exactly if
it gets to the end. -/
def Follows (succeeds : Turn A → Prop) (plan : List Q) (x : Task A ε δ α) : Prop :=
  ∀ d history, Ensures (recording fun _ => True) x d history fun r d' later =>
    d' = d ∧ ∃ own, later = history ++ own ∧ Proceeds succeeds plan own r.isOk

theorem Follows.bind {x : Task A ε δ α} {f : α → Task A ε δ β} (hx : Follows succeeds plan x)
    (hf : ∀ a, Follows succeeds more (f a)) :
    Follows succeeds (plan ++ more) (x >>= f : Task A ε δ β) := by
  intro d history
  rw [ensures_bind]
  refine (hx d history).imp ?_
  rintro (e | a) d' _ ⟨rfl, own, rfl, hown⟩
  · exact ⟨rfl, own, rfl, hown.stop more⟩
  · refine (hf a d' _).imp ?_
    rintro r _ _ ⟨rfl, later, rfl, hlater⟩
    exact ⟨rfl, own ++ later, List.append_assoc .., hown.append hlater⟩

end Task

end HeadEnd
