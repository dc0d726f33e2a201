import HeadEnd.Proofs.Dialogue.Run

/-! # Histories of dialogues

A world that may give any fair answer and only keeps a record of what was asked and answered. What
holds of the histories of a dialogue with this world is what it can be seen to do in any world whose
answers are fair.
-/

namespace HeadEnd

/-- A question with its answer. -/
structure Turn {Q : Type} (A : Q → Type) where
  question : Q
  answer : A question

/-- The rules of a world whose state is the history of what it was asked. -/
def recording {Q : Type} {A : Q → Type} (fair : Turn A → Prop) : Rules A (List (Turn A)) :=
  fun question history answer history' =>
    fair ⟨question, answer⟩ ∧ history' = history ++ [⟨question, answer⟩]

variable {Q : Type} {A : Q → Type} {α σ : Type} {fair : Turn A → Prop}

namespace Dialogue

/-- What a dialogue does from now on does not depend on what was asked before. -/
theorem Runs.exists_own {d : Dialogue Q A α} {history history' : List (Turn A)} {a : α}
    (h : Runs (recording fair) d history a history') (before : List (Turn A)) :
    ∃ own, history' = history ++ own ∧ Runs (recording fair) d before a (before ++ own) := by
  induction h generalizing before with
  | done a history => exact ⟨[], by simp, by simpa using Runs.done a before⟩
  | @ask q next history answer middle a history' hq hnext ih =>
      obtain ⟨hfair, rfl⟩ := hq
      obtain ⟨own, rfl, hown⟩ := ih (before ++ [⟨q, answer⟩])
      refine ⟨⟨q, answer⟩ :: own, by simp, .ask ⟨hfair, rfl⟩ ?_⟩
      simpa using hown

theorem Ensures.after {d : Dialogue Q A α} {post : α → List (Turn A) → Prop}
    (h : Ensures (recording fair) d [] post) (history : List (Turn A)) :
    Ensures (recording fair) d history fun a history' =>
      ∃ own, history' = history ++ own ∧ post a own := by
  intro a history' hruns
  obtain ⟨own, hown, hruns⟩ := hruns.exists_own []
  exact ⟨own, hown, h a own hruns⟩

/-- A history holds fair answers only. -/
theorem Runs.forall_fair {d : Dialogue Q A α} {history history' : List (Turn A)} {a : α}
    (h : Runs (recording fair) d history a history') (hhistory : ∀ turn ∈ history, fair turn) :
    ∀ turn ∈ history', fair turn := by
  have step : ∀ question history answer history', recording fair question history answer history' →
      (∀ turn ∈ history, fair turn) → ∀ turn ∈ history', fair turn := by
    rintro question history answer history' ⟨hfair, rfl⟩ hhistory turn hturn
    rcases List.mem_append.mp hturn with hturn | hturn
    · exact hhistory turn hturn
    · rw [List.mem_singleton.mp hturn]
      exact hfair
  exact h.preserves step hhistory

/-- A history holds nothing but what the dialogue may ask. -/
theorem Within.forall_turns {P : Q → Prop} {R : α → Prop} {d : Dialogue Q A α} {a : α}
    {history : List (Turn A)} (h : d.Within P R) (hruns : Runs (recording fair) d [] a history) :
    R a ∧ ∀ turn ∈ history, P turn.question := by
  have step : ∀ question history answer history', P question →
      recording fair question history answer history' → (∀ turn ∈ history, P turn.question) →
      ∀ turn ∈ history', P turn.question := by
    rintro question history answer history' hquestion ⟨_, rfl⟩ hhistory turn hturn
    rcases List.mem_append.mp hturn with hturn | hturn
    · exact hhistory turn hturn
    · rw [List.mem_singleton.mp hturn]
      exact hquestion
  exact h.ensures step (fun turn hturn => absurd hturn List.not_mem_nil) _ _ hruns

/-- A run in a world whose answers are fair has a history. -/
theorem Runs.exists_history {rules : Rules A σ} {d : Dialogue Q A α} {s t : σ} {a : α}
    (h : Runs rules d s a t) (hfair : ∀ q s answer t, rules q s answer t → fair ⟨q, answer⟩)
    (before : List (Turn A)) :
    ∃ history, Runs (recording fair) d before a history := by
  induction h generalizing before with
  | done a => exact ⟨before, .done a before⟩
  | ask hq _ ih =>
      obtain ⟨history, hnext⟩ := ih (before ++ [⟨_, _⟩])
      exact ⟨history, .ask ⟨hfair _ _ _ _ hq, rfl⟩ hnext⟩

/-- A world that gives each question an answer of its own leaves a history. -/
theorem exists_history_of_run {answers : (q : Q) → A q} (hfair : ∀ q, fair ⟨q, answers q⟩)
    {d : Dialogue Q A α} {a : α} (h : d.run (fun q (_ : Unit) => (answers q, ())) () = (a, ())) :
    ∃ history, Runs (recording fair) d [] a history := by
  refine ((runs_iff_run_eq _).mpr h).exists_history (fun q _ answer _ hanswer => ?_) []
  obtain ⟨rfl, _⟩ := Prod.mk.inj hanswer
  exact hfair q

/-- The run with a world that gives each question an answer of its own and keeps the history. -/
theorem runs_recorded {answers : (q : Q) → A q} (hfair : ∀ q, fair ⟨q, answers q⟩)
    (d : Dialogue Q A α) (before : List (Turn A)) :
    Runs (recording fair) d before
      (d.run (fun q past => (answers q, past ++ [⟨q, answers q⟩])) before).1
      (d.run (fun q past => (answers q, past ++ [⟨q, answers q⟩])) before).2 := by
  refine ((runs_iff_run_eq _).mpr rfl).mono fun q past answer later hanswer => ?_
  obtain ⟨rfl, rfl⟩ := Prod.mk.inj hanswer
  exact ⟨hfair q, rfl⟩

end Dialogue

/-! ## Traces -/

/-- The rules allow the turns one after the other, from the one state to the other. -/
inductive Traces (rules : Rules A σ) : σ → List (Turn A) → σ → Prop
  | nil {s} : Traces rules s [] s
  | cons {s turn s' history t} : rules turn.question s turn.answer s' → Traces rules s' history t →
      Traces rules s (turn :: history) t

theorem traces_append_iff {rules : Rules A σ} {history later : List (Turn A)} {s t : σ} :
    Traces rules s (history ++ later) t ↔
      ∃ s', Traces rules s history s' ∧ Traces rules s' later t := by
  induction history generalizing s with
  | nil =>
      constructor
      · intro h
        exact ⟨s, .nil, h⟩
      · rintro ⟨_, ⟨⟩, h⟩
        exact h
  | cons turn history ih =>
      constructor
      · rintro (_ | ⟨hturn, hrest⟩)
        obtain ⟨s', hhistory, hlater⟩ := ih.mp hrest
        exact ⟨s', .cons hturn hhistory, hlater⟩
      · rintro ⟨s', _ | ⟨hturn, hhistory⟩, hlater⟩
        exact .cons hturn (ih.mpr ⟨s', hhistory, hlater⟩)

/-- A run in any world has a history, which the world goes through. -/
theorem Dialogue.Runs.exists_trace {rules : Rules A σ} {d : Dialogue Q A α} {s t : σ} {a : α}
    (h : Runs rules d s a t) (before : List (Turn A)) :
    ∃ own, Traces rules s own t ∧ Runs (recording fun _ => True) d before a (before ++ own) := by
  induction h generalizing before with
  | done a =>
      rw [← List.append_nil before]
      exact ⟨[], .nil, by simpa using Runs.done a before⟩
  | @ask q next s answer s' a t hq _ ih =>
      obtain ⟨own, htrace, hnext⟩ := ih (before ++ [⟨q, answer⟩])
      rw [List.append_assoc] at hnext
      exact ⟨⟨q, answer⟩ :: own, .cons hq htrace, .ask ⟨trivial, rfl⟩ hnext⟩

/-! ## Laws of histories -/

/-- Every turn obeys the law in view of the turns before it. -/
def Lawful (law : List (Turn A) → Turn A → Prop) (history : List (Turn A)) : Prop :=
  ∀ past turn rest, history = past ++ turn :: rest → law past turn

namespace Lawful

variable {law : List (Turn A) → Turn A → Prop} {history : List (Turn A)}

theorem nil : Lawful law [] := by
  intro past turn rest h
  simp at h

theorem snoc (h : Lawful law history) (turn : Turn A) (hturn : law history turn) :
    Lawful law (history ++ [turn]) := by
  intro past last rest heq
  rcases List.eq_nil_or_concat rest with rfl | ⟨rest, final, rfl⟩
  · obtain ⟨rfl, hlast⟩ := List.append_inj' heq rfl
    cases hlast
    exact hturn
  · rw [List.concat_eq_append, ← List.cons_append, ← List.append_assoc] at heq
    obtain ⟨rfl, _⟩ := List.append_inj' heq rfl
    exact h past last rest rfl

theorem imp {law' : List (Turn A) → Turn A → Prop} (h : Lawful law history)
    (himp : ∀ past turn, law past turn → law' past turn) : Lawful law' history :=
  fun past turn rest heq => himp past turn (h past turn rest heq)

theorem of_append {rest : List (Turn A)} (h : Lawful law (history ++ rest)) :
    Lawful law history := by
  intro past turn rest' heq
  refine h past turn (rest' ++ rest) ?_
  rw [heq, List.append_assoc, List.cons_append]

/-- One history after another: the later turns obey their law in view of the later ones only. -/
theorem append {law' : List (Turn A) → Turn A → Prop} {later : List (Turn A)}
    (h : Lawful law history) (hlater : Lawful law' later) :
    Lawful (fun past turn => law past turn ∨
      ∃ past', past = history ++ past' ∧ law' past' turn) (history ++ later) := by
  intro past turn rest heq
  rcases List.append_eq_append_iff.mp heq with ⟨past', rfl, hpast'⟩ | ⟨middle, hmiddle, hrest⟩
  · exact .inr ⟨past', rfl, hlater past' turn rest hpast'⟩
  · cases middle with
    | nil =>
        rw [List.append_nil] at hmiddle
        exact .inr ⟨[], by simp [hmiddle], hlater [] turn rest hrest.symm⟩
    | cons first middle =>
        obtain ⟨rfl, _⟩ := List.cons.inj hrest
        exact .inl (h past turn middle hmiddle)

end Lawful

end HeadEnd
