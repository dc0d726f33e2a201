import HeadEnd.Dialogue

/-! # Runs of dialogues

A world is described by its rules: which answers it may give in a state, and which state an answer
leaves it in. Rules may leave every choice open, so that what holds of all runs under them holds
whatever the world does. What a dialogue ensures is proved along its structure, from what the rules
say about one question at a time.
-/

namespace HeadEnd

/-- The rules of a world: in the state `s` it may give an answer to a question and go on in the
state `t`. -/
abbrev Rules {Q : Type} (A : Q → Type) (σ : Type) :=
  (question : Q) → (s : σ) → A question → (t : σ) → Prop

namespace Dialogue

variable {Q R : Type} {A : Q → Type} {B : R → Type} {α β σ : Type} {rules : Rules A σ}

/-- Under the rules the dialogue may end with the result and leave the world in the state `t`. -/
inductive Runs (rules : Rules A σ) : Dialogue Q A α → σ → α → σ → Prop where
  | done (a s) : Runs rules (done a) s a s
  | ask {q next s answer s' a t} : rules q s answer s' → Runs rules (next answer) s' a t →
      Runs rules (ask q next) s a t

theorem runs_done_iff {a b : α} {s t : σ} : Runs rules (done a) s b t ↔ b = a ∧ t = s := by
  constructor
  · intro h
    cases h
    exact ⟨rfl, rfl⟩
  · rintro ⟨rfl, rfl⟩
    exact .done b t

theorem runs_ask_iff {q : Q} {next : A q → Dialogue Q A α} {s t : σ} {a : α} :
    Runs rules (ask q next) s a t ↔
      ∃ answer s', rules q s answer s' ∧ Runs rules (next answer) s' a t := by
  constructor
  · intro h
    cases h with
    | ask hq hnext => exact ⟨_, _, hq, hnext⟩
  · rintro ⟨answer, s', hq, hnext⟩
    exact .ask hq hnext

/-- A run of one dialogue after another is a run of the first, then a run of the second. -/
theorem runs_bind_iff {d : Dialogue Q A α} {f : α → Dialogue Q A β} {s t : σ} {b : β} :
    Runs rules (d >>= f) s b t ↔ ∃ a s', Runs rules d s a s' ∧ Runs rules (f a) s' b t := by
  induction d generalizing s with
  | done a =>
      rw [done_bind]
      constructor
      · intro h
        exact ⟨a, s, .done a s, h⟩
      · rintro ⟨_, _, hd, hf⟩
        obtain ⟨rfl, rfl⟩ := runs_done_iff.mp hd
        exact hf
  | ask q next ih =>
      simp only [ask_bind, runs_ask_iff, ih]
      constructor
      · rintro ⟨answer, s₁, hq, a, s₂, hd, hf⟩
        exact ⟨a, s₂, ⟨answer, s₁, hq, hd⟩, hf⟩
      · rintro ⟨a, s₂, ⟨answer, s₁, hq, hd⟩, hf⟩
        exact ⟨answer, s₁, hq, a, s₂, hd, hf⟩

/-- A relayed dialogue runs under the rules that its questions have through the relay. -/
theorem runs_relay_iff {rules : Rules B σ} {f : (q : Q) → Dialogue R B (A q)}
    {d : Dialogue Q A α} {s t : σ} {a : α} :
    Runs rules (d.relay f) s a t ↔
      Runs (fun q s answer t => Runs rules (f q) s answer t) d s a t := by
  induction d generalizing s with
  | done a => simp [relay, runs_done_iff]
  | ask q next ih =>
      change Runs rules (f q >>= fun answer => (next answer).relay f) s a t ↔ _
      simp only [runs_bind_iff, runs_ask_iff, ih]

/-- The run with a world that is a function is the only one under its rules. -/
theorem runs_iff_run_eq (world : (q : Q) → σ → A q × σ) {d : Dialogue Q A α} {s t : σ} {a : α} :
    Runs (fun q s answer t => world q s = (answer, t)) d s a t ↔ d.run world s = (a, t) := by
  induction d generalizing s with
  | done b => simp [runs_done_iff, run, eq_comm]
  | ask q next ih =>
      simp only [runs_ask_iff, ih]
      constructor
      · rintro ⟨answer, s', hq, hnext⟩
        simp only [run, hq, hnext]
      · intro h
        exact ⟨(world q s).1, (world q s).2, rfl, h⟩

/-- Rules that allow more allow the same runs. -/
theorem Runs.mono {rules' : Rules A σ} {d : Dialogue Q A α} {s t : σ} {a : α}
    (h : Runs rules d s a t) (hrules : ∀ q s answer t, rules q s answer t → rules' q s answer t) :
    Runs rules' d s a t := by
  induction h with
  | done a s => exact .done a s
  | ask hq _ ih => exact .ask (hrules _ _ _ _ hq) ih

/-- What every answer preserves, a run preserves. -/
theorem Runs.preserves {d : Dialogue Q A α} {s t : σ} {a : α} (h : Runs rules d s a t)
    {holds : σ → Prop} (step : ∀ q s answer t, rules q s answer t → holds s → holds t)
    (hs : holds s) : holds t := by
  induction h with
  | done => exact hs
  | ask hq _ ih => exact ih (step _ _ _ _ hq hs)

/-- If every question has an answer as long as `holds` does, the dialogue comes to its end. -/
theorem exists_runs {holds : σ → Prop}
    (answers : ∀ q s, holds s → ∃ answer t, rules q s answer t ∧ holds t)
    (d : Dialogue Q A α) {s : σ} (hs : holds s) : ∃ a t, Runs rules d s a t := by
  induction d generalizing s with
  | done a => exact ⟨a, s, .done a s⟩
  | ask q next ih =>
      obtain ⟨answer, s', hq, hs'⟩ := answers q s hs
      obtain ⟨a, t, hnext⟩ := ih answer hs'
      exact ⟨a, t, .ask hq hnext⟩

/-! ## What a dialogue ensures -/

/-- However the dialogue runs from `s`, it ends as `post` says. -/
def Ensures (rules : Rules A σ) (d : Dialogue Q A α) (s : σ) (post : α → σ → Prop) : Prop :=
  ∀ a t, Runs rules d s a t → post a t

@[simp] theorem ensures_done {a : α} {s : σ} {post : α → σ → Prop} :
    Ensures rules (done a) s post ↔ post a s := by
  simp [Ensures, runs_done_iff]

@[simp] theorem ensures_ask {q : Q} {next : A q → Dialogue Q A α} {s : σ} {post : α → σ → Prop} :
    Ensures rules (ask q next) s post ↔
      ∀ answer t, rules q s answer t → Ensures rules (next answer) t post := by
  simp only [Ensures, runs_ask_iff]
  constructor
  · intro h answer s' hq a t hnext
    exact h a t ⟨answer, s', hq, hnext⟩
  · rintro h a t ⟨answer, s', hq, hnext⟩
    exact h answer s' hq a t hnext

theorem ensures_bind {d : Dialogue Q A α} {f : α → Dialogue Q A β} {s : σ} {post : β → σ → Prop} :
    Ensures rules (d >>= f) s post ↔
      Ensures rules d s fun a t => Ensures rules (f a) t post := by
  simp only [Ensures, runs_bind_iff]
  constructor
  · intro h a s' hd b t hf
    exact h b t ⟨a, s', hd, hf⟩
  · rintro h b t ⟨a, s', hd, hf⟩
    exact h a s' hd b t hf

theorem Ensures.imp {d : Dialogue Q A α} {s : σ} {post post' : α → σ → Prop}
    (h : Ensures rules d s post) (himp : ∀ a t, post a t → post' a t) :
    Ensures rules d s post' :=
  fun a t hrun => himp a t (h a t hrun)

/-! ## What a dialogue asks -/

/-- All that the dialogue may ask satisfies `P`, and all that it may end with satisfies `R`. -/
inductive Within (P : Q → Prop) (R : α → Prop) : Dialogue Q A α → Prop where
  | done {a} : R a → Within P R (done a)
  | ask {q next} : P q → (∀ answer, Within P R (next answer)) → Within P R (ask q next)

theorem Within.bind {P : Q → Prop} {R : α → Prop} {S : β → Prop} {d : Dialogue Q A α}
    {f : α → Dialogue Q A β} (hd : Within P R d) (hf : ∀ a, R a → Within P S (f a)) :
    Within P S (d >>= f) := by
  induction hd with
  | done ha => exact hf _ ha
  | ask hq _ ih => exact .ask hq ih

/-- A run ends as the dialogue may end, with what the answers to its questions preserve. -/
theorem Within.ensures {P : Q → Prop} {R : α → Prop} {d : Dialogue Q A α} (h : Within P R d)
    {holds : σ → Prop} (step : ∀ q s answer t, P q → rules q s answer t → holds s → holds t)
    {s : σ} (hs : holds s) : Ensures rules d s fun a t => R a ∧ holds t := by
  induction h generalizing s with
  | done ha => exact ensures_done.mpr ⟨ha, hs⟩
  | ask hq _ ih =>
      rw [ensures_ask]
      intro answer t hrules
      exact ih answer (step _ _ _ _ hq hrules hs)

end Dialogue

end HeadEnd
