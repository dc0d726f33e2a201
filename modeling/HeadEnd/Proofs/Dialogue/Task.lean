import HeadEnd.Proofs.Dialogue.History

/-! # Tasks

Dialogues that may fail and that work on a state of their own: what they ensure, step by step, and
which of them leave their state as it is.
-/

namespace HeadEnd

/-- A dialogue that may fail and may change a state of its own. -/
abbrev Task {Q : Type} (A : Q → Type) (ε δ α : Type) :=
  ExceptT ε (StateT δ (Dialogue Q A)) α

namespace Task

variable {Q : Type} {A : Q → Type} {ε δ α β σ : Type} {rules : Rules A σ} {d : δ} {s : σ}

/-! ## Runs -/

/-- A run of one task after another is a run of the first that fails, or one that succeeds and after it
a run of the second. -/
theorem runs_bind_iff {x : Task A ε δ α} {f : α → Task A ε δ β} {r : Except ε β × δ} {t : σ} :
    Dialogue.Runs rules ((x >>= f : Task A ε δ β).run.run d) s r t ↔
      ∃ outcome d' s', Dialogue.Runs rules (x.run.run d) s (outcome, d') s' ∧
        match outcome with
        | .ok a => Dialogue.Runs rules ((f a).run.run d') s' r t
        | .error e => r = (.error e, d') ∧ t = s' := by
  change Dialogue.Runs rules (x.run.run d >>= fun r => _) s r t ↔ _
  rw [Dialogue.runs_bind_iff]
  constructor
  · rintro ⟨⟨outcome, d'⟩, s', hx, hrest⟩
    refine ⟨outcome, d', s', hx, ?_⟩
    cases outcome with
    | ok a => exact hrest
    | error e => exact Dialogue.runs_done_iff.mp hrest
  · rintro ⟨outcome, d', s', hx, hrest⟩
    refine ⟨(outcome, d'), s', hx, ?_⟩
    cases outcome with
    | ok a => exact hrest
    | error e => exact Dialogue.runs_done_iff.mpr hrest

theorem runs_map_iff {x : Task A ε δ α} {f : α → β} {r : Except ε β} {d' : δ} {t : σ} :
    Dialogue.Runs rules ((f <$> x : Task A ε δ β).run.run d) s (r, d') t ↔
      ∃ outcome, Dialogue.Runs rules (x.run.run d) s (outcome, d') t ∧ r = outcome.map f := by
  rw [map_eq_pure_bind, runs_bind_iff]
  constructor
  · rintro ⟨outcome, _, _, hx, hrest⟩
    cases outcome with
    | ok a =>
        obtain ⟨heq, rfl⟩ := Dialogue.runs_done_iff.mp hrest
        cases heq
        exact ⟨.ok a, hx, rfl⟩
    | error e =>
        obtain ⟨heq, rfl⟩ := hrest
        cases heq
        exact ⟨.error e, hx, rfl⟩
  · rintro ⟨outcome, hx, rfl⟩
    refine ⟨outcome, d', t, hx, ?_⟩
    cases outcome with
    | ok a => exact .done _ t
    | error e => exact ⟨rfl, rfl⟩

/-! ## What a task ensures -/

/-- However the task runs on `d` from `s`, it ends as `post` says of its outcome, its own state and
the state of the world. -/
def Ensures (rules : Rules A σ) (x : Task A ε δ α) (d : δ) (s : σ)
    (post : Except ε α → δ → σ → Prop) : Prop :=
  (x.run.run d).Ensures rules s fun r t => post r.1 r.2 t

@[simp] theorem ensures_pure {a : α} {post : Except ε α → δ → σ → Prop} :
    Ensures rules (pure a : Task A ε δ α) d s post ↔ post (.ok a) d s :=
  Dialogue.ensures_done

@[simp] theorem ensures_throw {e : ε} {post : Except ε α → δ → σ → Prop} :
    Ensures rules (throw e : Task A ε δ α) d s post ↔ post (.error e) d s :=
  Dialogue.ensures_done

@[simp] theorem ensures_get {post : Except ε δ → δ → σ → Prop} :
    Ensures rules (get : Task A ε δ δ) d s post ↔ post (.ok d) d s :=
  Dialogue.ensures_done

@[simp] theorem ensures_set {d' : δ} {post : Except ε PUnit → δ → σ → Prop} :
    Ensures rules (set d' : Task A ε δ PUnit) d s post ↔ post (.ok ⟨⟩) d' s :=
  Dialogue.ensures_done

@[simp] theorem ensures_modify {f : δ → δ} {post : Except ε PUnit → δ → σ → Prop} :
    Ensures rules (modify f : Task A ε δ PUnit) d s post ↔ post (.ok ⟨⟩) (f d) s :=
  Dialogue.ensures_done

/-- A task goes on after a step that succeeded, and ends with a step that failed. -/
@[simp] theorem ensures_bind {x : Task A ε δ α} {f : α → Task A ε δ β}
    {post : Except ε β → δ → σ → Prop} :
    Ensures rules (x >>= f : Task A ε δ β) d s post ↔
      Ensures rules x d s fun r d' t =>
        match r with
        | .ok a => Ensures rules (f a) d' t post
        | .error e => post (.error e) d' t := by
  constructor
  · rintro h ⟨outcome, d'⟩ t hx
    cases outcome with
    | ok a =>
        intro r u hf
        exact h r u (runs_bind_iff.mpr ⟨.ok a, d', t, hx, hf⟩)
    | error e => exact h (.error e, d') t (runs_bind_iff.mpr ⟨.error e, d', t, hx, rfl, rfl⟩)
  · intro h r t hruns
    obtain ⟨outcome, d', s', hx, hrest⟩ := runs_bind_iff.mp hruns
    cases outcome with
    | ok a => exact h _ _ hx _ _ hrest
    | error e =>
        obtain ⟨rfl, rfl⟩ := hrest
        exact h _ _ hx

theorem Ensures.imp {x : Task A ε δ α} {post post' : Except ε α → δ → σ → Prop}
    (h : Ensures rules x d s post) (himp : ∀ r d' t, post r d' t → post' r d' t) :
    Ensures rules x d s post' :=
  Dialogue.Ensures.imp h fun _ _ => himp _ _ _

/-! ## Tasks that leave their state as it is -/

/-- The task asks only what satisfies `P`, and leaves its own state as it is. -/
def Keeps (P : Q → Prop) (x : Task A ε δ α) : Prop :=
  ∀ d, (x.run.run d).Within P fun r => r.2 = d

variable {P : Q → Prop}

theorem keeps_pure (a : α) : Keeps P (pure a : Task A ε δ α) :=
  fun _ => .done rfl

theorem keeps_throw (e : ε) : Keeps P (throw e : Task A ε δ α) :=
  fun _ => .done rfl

theorem keeps_get : Keeps P (get : Task A ε δ δ) :=
  fun _ => .done rfl

theorem Keeps.bind {x : Task A ε δ α} {f : α → Task A ε δ β} (hx : Keeps P x)
    (hf : ∀ a, Keeps P (f a)) : Keeps P (x >>= f : Task A ε δ β) := by
  intro d
  refine (hx d).bind ?_
  rintro ⟨r | a, d'⟩ rfl
  · exact .done rfl
  · exact hf a d'

theorem keeps_mapM {f : α → Task A ε δ β} {xs : List α} (hf : ∀ a ∈ xs, Keeps P (f a)) :
    Keeps P (xs.mapM f : Task A ε δ (List β)) := by
  induction xs with
  | nil => exact keeps_pure []
  | cons a xs ih =>
      obtain ⟨ha, hxs⟩ := List.forall_mem_cons.mp hf
      rw [List.mapM_cons]
      exact ha.bind fun b => (ih hxs).bind fun bs => keeps_pure (b :: bs)

/-- What the answers to its questions preserve, a task preserves that leaves its state as it is. -/
theorem Keeps.ensures {x : Task A ε δ α} (h : Keeps P x) {holds : σ → Prop}
    (step : ∀ q s answer t, P q → rules q s answer t → holds s → holds t) (hs : holds s) :
    Ensures rules x d s fun _ d' t => d' = d ∧ holds t :=
  (h d).ensures step hs

/-- All that was asked in a run satisfies `P`, and the task ends with the state that it had. -/
theorem Keeps.forall_turns {fair : Turn A → Prop} {x : Task A ε δ α} (h : Keeps P x)
    {r : Except ε α} {d' : δ} {history : List (Turn A)}
    (hruns : Dialogue.Runs (recording fair) (x.run.run d) [] (r, d') history) :
    d' = d ∧ ∀ turn ∈ history, P turn.question :=
  (h d).forall_turns hruns

/-! ## Tasks that maintain an invariant -/

/-- What holds of the state of the task and that of the world goes on to hold, however the task
runs. -/
def Maintains (rules : Rules A σ) (holds : δ → σ → Prop) (x : Task A ε δ α) : Prop :=
  ∀ d s, holds d s → Ensures rules x d s fun _ d' t => holds d' t

variable {holds : δ → σ → Prop}

theorem maintains_pure (a : α) : Maintains rules holds (pure a : Task A ε δ α) :=
  fun _ _ h => ensures_pure.mpr h

theorem maintains_throw (e : ε) : Maintains rules holds (throw e : Task A ε δ α) :=
  fun _ _ h => ensures_throw.mpr h

theorem maintains_get : Maintains rules holds (get : Task A ε δ δ) :=
  fun _ _ h => ensures_get.mpr h

theorem Maintains.bind {x : Task A ε δ α} {f : α → Task A ε δ β}
    (hx : Maintains rules holds x) (hf : ∀ a, Maintains rules holds (f a)) :
    Maintains rules holds (x >>= f : Task A ε δ β) := by
  intro d s h
  rw [ensures_bind]
  refine (hx d s h).imp fun r d' t h' => ?_
  cases r with
  | ok a => exact hf a d' t h'
  | error e => exact h'

end Task

end HeadEnd
