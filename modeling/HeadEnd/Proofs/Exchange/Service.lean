import HeadEnd.Exchange.Service
import HeadEnd.Proofs.Exchange.Step

/-! # Runs of a whole exchange

An exchange fails before its session is open, or carries out its body over a session that was opened
with the record that was loaded.
-/

namespace HeadEnd.Exchange

variable {α σ : Type} {rules : Rules Answer σ} {s t : σ} {a : α} {identification : String}
  {onFailure : Failure → α} {body : StateT Device Session α}

theorem runs_locked_iff {exchange : Exchange α} :
    Dialogue.Runs rules (locked identification exchange) s a t ↔
      ∃ s₁ s₂, rules (.acquire identification) s () s₁ ∧
        Dialogue.Runs rules exchange s₁ a s₂ ∧ rules (.release identification) s₂ () t := by
  simp only [locked, Dialogue.runs_bind_iff, Dialogue.pure_eq, Dialogue.runs_done_iff]
  constructor
  · rintro ⟨_, s₁, hacquire, _, s₂, hexchange, _, s₃, hrelease, rfl, rfl⟩
    exact ⟨s₁, s₂, runs_question_iff.mp hacquire, hexchange, runs_question_iff.mp hrelease⟩
  · rintro ⟨s₁, s₂, hacquire, hexchange, hrelease⟩
    exact ⟨(), s₁, runs_question_iff.mpr hacquire, a, s₂, hexchange, (), t,
      runs_question_iff.mpr hrelease, rfl, rfl⟩

/-! ## Exchanges with a session -/

variable (rules identification onFailure body s) in
/-- How an exchange with a session may run. -/
inductive RunsWithSession : α → σ → Prop where
  | unloaded {s₁ failure s₂ t} :
      rules (.acquire identification) s () s₁ →
      rules (.load identification) s₁ (.error failure) s₂ →
      rules (.release identification) s₂ () t →
      RunsWithSession (onFailure failure) t
  | unopened {s₁ device s₂ failure d s₃ t} :
      rules (.acquire identification) s () s₁ →
      rules (.load identification) s₁ (.ok device) s₂ →
      Dialogue.Runs rules (openSession.run.run device) s₂ (.error failure, d) s₃ →
      rules (.release identification) s₃ () t →
      RunsWithSession (onFailure failure) t
  | carried {s₁ device s₂ session d s₃ a d' s₄ closed s₅ t} :
      rules (.acquire identification) s () s₁ →
      rules (.load identification) s₁ (.ok device) s₂ →
      Dialogue.Runs rules (openSession.run.run device) s₂ (.ok session, d) s₃ →
      Dialogue.Runs (sessionRules rules) (body.run d) s₃ (a, d') s₄ →
      rules .close s₄ closed s₅ →
      rules (.release identification) s₅ () t →
      RunsWithSession a t

theorem runs_withSession_iff :
    Dialogue.Runs rules (withSession identification onFailure body) s a t ↔
      RunsWithSession rules s identification onFailure body a t := by
  rw [withSession, runs_locked_iff]
  simp only [Dialogue.runs_bind_iff]
  constructor
  · rintro ⟨s₁, s₂, hacquire, ⟨failure | device, s₃, hload, hrest⟩, hrelease⟩
    · have hload := runs_question_iff.mp hload
      obtain ⟨rfl, rfl⟩ := Dialogue.runs_done_iff.mp hrest
      exact .unloaded hacquire hload hrelease
    · have hload := runs_question_iff.mp hload
      obtain ⟨⟨failure | session, d⟩, s₄, hopen, hrest⟩ := Dialogue.runs_bind_iff.mp hrest
      · obtain ⟨rfl, rfl⟩ := Dialogue.runs_done_iff.mp hrest
        exact .unopened hacquire hload hopen hrelease
      · obtain ⟨⟨a', d'⟩, s₅, hbody, hrest⟩ := Dialogue.runs_bind_iff.mp hrest
        obtain ⟨closed, s₆, hclose, hdone⟩ := Dialogue.runs_bind_iff.mp hrest
        obtain ⟨rfl, rfl⟩ := Dialogue.runs_done_iff.mp hdone
        exact .carried hacquire hload hopen (runs_ofSession_iff.mp hbody)
          (runs_question_iff.mp hclose) hrelease
  · intro h
    cases h with
    | unloaded hacquire hload hrelease =>
        exact ⟨_, _, hacquire, ⟨_, _, runs_question_iff.mpr hload, .done _ _⟩, hrelease⟩
    | unopened hacquire hload hopen hrelease =>
        refine ⟨_, _, hacquire, ⟨_, _, runs_question_iff.mpr hload, ?_⟩, hrelease⟩
        exact Dialogue.runs_bind_iff.mpr ⟨_, _, hopen, .done _ _⟩
    | carried hacquire hload hopen hbody hclose hrelease =>
        refine ⟨_, _, hacquire, ⟨_, _, runs_question_iff.mpr hload, ?_⟩, hrelease⟩
        refine Dialogue.runs_bind_iff.mpr ⟨_, _, hopen, ?_⟩
        refine Dialogue.runs_bind_iff.mpr ⟨_, _, runs_ofSession_iff.mpr hbody, ?_⟩
        exact Dialogue.runs_bind_iff.mpr ⟨_, _, runs_question_iff.mpr hclose, .done _ _⟩

end HeadEnd.Exchange
