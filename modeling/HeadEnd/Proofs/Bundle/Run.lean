import HeadEnd.Bundle.Run
import HeadEnd.Proofs.Dialogue.Task

/-! # Steps of running a bundle

What becomes of one request, and how a run over a list of actions goes on after the first of them.
-/

namespace HeadEnd

/-- The answer to a request that is made of the outcome of a command, or the loss of the
connection. -/
def Handler.answer (handler : Handler) (settings : Settings) (identification : String) :
    Outcome Response → Outcome Response
  | .ok response => .ok response
  | .error failure =>
    if failure.isConnectionLoss then .error failure
    else .ok (.fault (.ofFailure failure ("Error handling request with " ++ handler.name)
      settings.component identification))

theorem Handler.isConnectionLoss_of_answer {handler : Handler} {settings : Settings}
    {identification : String} {outcome : Outcome Response} {failure : Failure}
    (h : handler.answer settings identification outcome = .error failure) :
    outcome = .error failure ∧ failure.isConnectionLoss = true := by
  unfold answer at h
  split at h
  · cases h
  · split at h
    · cases h
      exact ⟨rfl, ‹_›⟩
    · cases h

namespace Bundle

/-- The answer to a request that no command is registered for. -/
def unanswerable (settings : Settings) (identification : String) : Response :=
  .fault (.plain settings.defaultFaultMessage settings.component identification)

variable {σ : Type} {rules : Rules Answer σ} {registry : Registry} {settings : Settings}
  {device d : Device} {s t : σ}

theorem runs_respond_of_none {request : Request} {r : Outcome Response × Device}
    (hfind : registry.find? request.kind = none) :
    Dialogue.Runs rules (respond registry settings request device) s r t ↔
      r = (.ok (unanswerable settings device.identification), device) ∧ t = s := by
  rw [respond, hfind]
  exact Dialogue.runs_done_iff

theorem respond_of_some {request : Request} {handler : Handler}
    (hfind : registry.find? request.kind = some handler) :
    respond registry settings request device =
      ((handler.handle request).run.run device >>= fun r =>
        .done (handler.answer settings r.2.identification r.1, r.2)) := by
  rw [respond, hfind]
  refine congrArg (Dialogue.bind _) (funext ?_)
  rintro ⟨failure | response, d⟩
  · by_cases hloss : failure.isConnectionLoss = true
    · simp [Handler.answer, hloss]
    · simp [Handler.answer, hloss]
  · rfl

theorem runs_respond_of_some {request : Request} {handler : Handler}
    {r : Outcome Response × Device} (hfind : registry.find? request.kind = some handler) :
    Dialogue.Runs rules (respond registry settings request device) s r t ↔
      ∃ outcome d, Dialogue.Runs rules ((handler.handle request).run.run device) s (outcome, d) t ∧
        r = (handler.answer settings d.identification outcome, d) := by
  rw [respond_of_some hfind, Dialogue.runs_bind_iff]
  constructor
  · rintro ⟨⟨outcome, d⟩, u, hruns, hdone⟩
    obtain ⟨hr, rfl⟩ := Dialogue.runs_done_iff.mp hdone
    exact ⟨outcome, d, hruns, hr⟩
  · rintro ⟨outcome, d, hruns, hr⟩
    exact ⟨(outcome, d), t, hruns, Dialogue.runs_done_iff.mpr ⟨hr, rfl⟩⟩

/-! ## Lists of actions -/

variable {action : Action} {rest actions' : List Action} {result : Outcome Unit}

theorem runs_runActions_nil :
    Dialogue.Runs rules ((runActions registry settings []).run device) s
        ((actions', result), d) t ↔
      (actions' = [] ∧ result = .ok ()) ∧ d = device ∧ t = s := by
  have hdone : (runActions registry settings []).run device = .done (([], .ok ()), device) := rfl
  rw [hdone, Dialogue.runs_done_iff]
  simp [and_assoc]

/-- An action that has its response is passed over. -/
theorem runs_runActions_of_completed (h : action.isCompleted = true) :
    Dialogue.Runs rules ((runActions registry settings (action :: rest)).run device) s
        ((actions', result), d) t ↔
      ∃ rest', actions' = action :: rest' ∧
        Dialogue.Runs rules ((runActions registry settings rest).run device) s
          ((rest', result), d) t := by
  have hstep : (runActions registry settings (action :: rest)).run device =
      ((runActions registry settings rest).run device >>= fun r =>
        .done ((action :: r.1.1, r.1.2), r.2)) := by
    rw [runActions, if_pos h]
    rfl
  rw [hstep, Dialogue.runs_bind_iff]
  constructor
  · rintro ⟨⟨⟨rest', result'⟩, d'⟩, u, hruns, hdone⟩
    obtain ⟨hr, rfl⟩ := Dialogue.runs_done_iff.mp hdone
    cases hr
    exact ⟨rest', rfl, hruns⟩
  · rintro ⟨rest', rfl, hruns⟩
    exact ⟨_, t, hruns, Dialogue.runs_done_iff.mpr ⟨rfl, rfl⟩⟩

/-- After an action without a response the run goes on, unless the connection was lost. -/
theorem runs_runActions_of_pending (h : action.isCompleted = false) :
    Dialogue.Runs rules ((runActions registry settings (action :: rest)).run device) s
        ((actions', result), d) t ↔
      ∃ answer d₁ s₁,
        Dialogue.Runs rules (respond registry settings action.request device) s
          (answer, d₁) s₁ ∧
        match answer with
        | .ok response => ∃ rest', actions' = { action with response := some response } :: rest' ∧
          Dialogue.Runs rules ((runActions registry settings rest).run d₁) s₁
            ((rest', result), d) t
        | .error failure =>
          (actions' = action :: rest ∧ result = .error failure) ∧ d = d₁ ∧ t = s₁ := by
  have hstep : (runActions registry settings (action :: rest)).run device =
      (respond registry settings action.request device >>= fun r =>
        match r.1 with
        | .ok response =>
          ((runActions registry settings rest).run r.2 >>= fun r' =>
            .done (({ action with response := some response } :: r'.1.1, r'.1.2), r'.2))
        | .error failure => .done ((action :: rest, .error failure), r.2)) := by
    rw [runActions, if_neg (by simp [h])]
    refine congrArg (Dialogue.bind _) (funext ?_)
    rintro ⟨failure | response, d⟩ <;> rfl
  rw [hstep, Dialogue.runs_bind_iff]
  constructor
  · rintro ⟨⟨failure | response, d₁⟩, s₁, hrespond, hrest⟩
    · obtain ⟨hr, rfl⟩ := Dialogue.runs_done_iff.mp hrest
      cases hr
      exact ⟨.error failure, d₁, t, hrespond, ⟨rfl, rfl⟩, rfl, rfl⟩
    · obtain ⟨⟨⟨rest', result'⟩, d'⟩, u, hruns, hdone⟩ := Dialogue.runs_bind_iff.mp hrest
      obtain ⟨hr, rfl⟩ := Dialogue.runs_done_iff.mp hdone
      cases hr
      exact ⟨.ok response, d₁, s₁, hrespond, rest', rfl, hruns⟩
  · rintro ⟨failure | response, d₁, s₁, hrespond, hrest⟩
    · obtain ⟨⟨rfl, rfl⟩, rfl, rfl⟩ := hrest
      exact ⟨_, t, hrespond, Dialogue.runs_done_iff.mpr ⟨rfl, rfl⟩⟩
    · obtain ⟨rest', rfl, hruns⟩ := hrest
      refine ⟨_, s₁, hrespond, Dialogue.runs_bind_iff.mpr ⟨_, t, hruns, ?_⟩⟩
      exact Dialogue.runs_done_iff.mpr ⟨rfl, rfl⟩

theorem runs_run_iff {bundle bundle' : Bundle} :
    Dialogue.Runs rules ((bundle.run registry settings).run device) s ((bundle', result), d) t ↔
      Dialogue.Runs rules ((runActions registry settings bundle.actions).run device) s
        ((bundle'.actions, result), d) t := by
  have hstep : (bundle.run registry settings).run device =
      ((runActions registry settings bundle.actions).run device >>= fun r =>
        .done ((⟨r.1.1⟩, r.1.2), r.2)) := rfl
  rw [hstep, Dialogue.runs_bind_iff]
  constructor
  · rintro ⟨⟨⟨actions', result'⟩, d'⟩, u, hruns, hdone⟩
    obtain ⟨hr, rfl⟩ := Dialogue.runs_done_iff.mp hdone
    cases hr
    exact hruns
  · intro hruns
    exact ⟨_, t, hruns, Dialogue.runs_done_iff.mpr ⟨rfl, rfl⟩⟩

end Bundle

end HeadEnd
