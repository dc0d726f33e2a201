import HeadEnd.Proofs.Bundle.Run
import HeadEnd.Proofs.Command.Registry
import HeadEnd.Proofs.Key.Staging
import HeadEnd.Proofs.Session.Loss

/-! # Commands and the loss of the connection

Every command ends with the first failure of the world, and of itself never fails as if the
connection were lost. In a bundle the loss of the connection is therefore the last thing that
happens, and leaves its action and those after it as they are.
-/

namespace HeadEnd

open Operation

/-! ## Commands -/

namespace KeyChange

theorem passesOn_decryptStored (key : SecurityKey) : (decryptStored key).PassesOnFailures := by
  unfold decryptStored
  split
  · exact passesOn_decrypt _
  · exact passesOn_throw rfl

theorem passesOn_stage (change : KeyChange) : change.stage.PassesOnFailures := by
  refine passesOn_now.bind fun now => ?_
  exact (passesOn_modify _).bind fun _ => passesOn_saveDevice

theorem passesOn_confirm (kind : KeyKind) : (confirm kind).PassesOnFailures := by
  refine passesOn_now.bind fun now => passesOn_get.bind fun device => ?_
  split
  · exact (passesOn_set _).bind fun _ => passesOn_saveDevice
  · exact passesOn_throw rfl

theorem passesOn_execute (change : KeyChange) : change.execute.PassesOnFailures := by
  refine (passesOn_lift change.kind.lossless_transferRole).bind fun role => ?_
  refine passesOn_now.bind fun now => passesOn_get.bind fun device => ?_
  refine (passesOn_lift (device.lossless_validKey _ _)).bind fun master => ?_
  refine passesOn_get.bind fun device => ?_
  refine (passesOn_lift (device.lossless_validKey _ _)).bind fun _ => ?_
  refine change.passesOn_stage.bind fun _ => ?_
  refine (passesOn_decryptStored master).bind fun masterKey => ?_
  refine (passesOn_decrypt _).bind fun newKey => ?_
  refine (passesOn_lift (lossless_mapError fun _ => rfl)).bind fun wrapped => ?_
  refine (passesOn_describe _).bind fun _ => ?_
  refine (passesOn_callMethod _).bind fun result => ?_
  refine (passesOn_lift (result.lossless_check _)).bind fun _ => ?_
  exact (passesOn_adoptKey _ _).bind fun _ => passesOn_confirm _

end KeyChange

theorem KeyPair.passesOn_execute (keys : KeyPair) : keys.execute.PassesOnFailures := by
  refine (KeyChange.passesOn_execute _).bind fun _ => ?_
  refine (KeyChange.passesOn_execute _).bind fun _ => ?_
  exact passesOn_get.bind fun device => passesOn_pure _

theorem ActivityCalendar.passesOn_activate : ActivityCalendar.activate.PassesOnFailures := by
  refine (passesOn_describe _).bind fun _ => ?_
  exact (passesOn_callMethod _).bind fun result => passesOn_lift (result.lossless_check _)

namespace Command

variable {command : Command}

theorem passesOn_execute_of_mem (hcommand : command ∈ handlers ++ standalone)
    (input : command.Input) : (command.execute input).PassesOnFailures := by
  rcases List.mem_append.mp hcommand with hhandler | hstandalone
  · rcases isPlain_of_mem hhandler with rfl | hplain
    · exact KeyPair.passesOn_execute input
    · exact (hplain.execute input).passesOnFailures
  · simp only [standalone, List.mem_cons, List.not_mem_nil, or_false] at hstandalone
    obtain rfl | rfl | rfl := hstandalone
    · exact ActivityCalendar.passesOn_activate
    · exact KeyChange.passesOn_execute input
    · exact Association.isPlain_dump.passesOnFailures

theorem passesOn_handle_of_mem (hcommand : command ∈ handlers) (request : Request) :
    (command.handle request).PassesOnFailures := by
  rcases isPlain_of_mem hcommand with rfl | hplain
  · unfold handle
    split
    · exact passesOn_throw rfl
    · rename_i handling hhandling
      cases hhandling
      split
      · exact passesOn_throw rfl
      · exact (KeyPair.passesOn_execute _).bind fun _ => passesOn_lift (lossless_ok _)
  · exact (hplain.handle request).passesOnFailures

end Command

/-! ## Bundles -/

theorem Handler.lossless_of_answer {handler : Handler} {settings : Settings}
    {identification : String} {outcome : Outcome Response} {response : Response}
    (h : handler.answer settings identification outcome = .ok response) : Lossless outcome := by
  rintro failure rfl
  cases hloss : failure.isConnectionLoss with
  | false => rfl
  | true => simp [answer, hloss] at h

namespace Bundle

/-- The connection was lost in the last turn of the history, in which the command of an action was
being carried out: the actions before it have their responses, it and those after it are as they
were. -/
structure Interrupted (fair : Turn Answer → Prop) (registry : Registry)
    (actions actions' : List Action) (failure : Failure) (history : List (Turn Answer)) : Prop where
  loss : failure.isConnectionLoss = true
  turn : ∃ past turn, history = past ++ [turn] ∧ turn.failure? = some failure ∧
    ∀ earlier ∈ past, ¬ earlier.IsLoss
  action : ∃ before before' action after, actions = before ++ action :: after ∧
    actions' = before' ++ action :: after ∧ action.response = none ∧
    before'.map Action.request = before.map Action.request ∧
    (∀ done ∈ before', done.isCompleted = true) ∧
    ∃ handler device device' past own, registry.find? action.request.kind = some handler ∧
      history = past ++ own ∧ own ≠ [] ∧
      Dialogue.Runs (recording fair) ((handler.handle action.request).run.run device) []
        (.error failure, device') own

/-- How a run over actions may end: nothing was lost, or the loss of the connection ended it. -/
def Ending (fair : Turn Answer → Prop) (registry : Registry) (actions actions' : List Action)
    (history : List (Turn Answer)) : Outcome Unit → Prop
  | .ok _ => ∀ turn ∈ history, ¬ turn.IsLoss
  | .error failure => Interrupted fair registry actions actions' failure history

variable {registry : Registry} {settings : Settings} {device d : Device}
  {fair : Turn Answer → Prop} {before history own own' : List (Turn Answer)}
  {actions actions' : List Action} {action : Action} {result : Outcome Unit} {failure : Failure}

/-- The commands that were registered pass on failures. -/
theorem passesOn_of_find? (h : registry.IsCatalogued) {kind : RequestKind} {handler : Handler}
    (hfind : registry.find? kind = some handler) (request : Request) :
    (handler.handle request).PassesOnFailures := by
  obtain ⟨command, hcommand, rfl⟩ := h.find? hfind
  exact Command.passesOn_handle_of_mem hcommand request

/-! ### One action -/

/-- A response means that nothing was lost. -/
theorem exists_own_of_respond_ok (h : registry.IsCatalogued) {request : Request}
    {response : Response}
    (hruns : Dialogue.Runs (recording fair) (respond registry settings request device) before
      (.ok response, d) history) :
    ∃ own, history = before ++ own ∧ ∀ turn ∈ own, ¬ turn.IsLoss := by
  cases hfind : registry.find? request.kind with
  | none =>
      obtain ⟨_, rfl⟩ := (runs_respond_of_none hfind).mp hruns
      exact ⟨[], by simp, fun turn hturn => absurd hturn List.not_mem_nil⟩
  | some handler =>
      obtain ⟨outcome, d', hruns, hanswer⟩ := (runs_respond_of_some hfind).mp hruns
      obtain ⟨own, rfl, hends⟩ := (passesOn_of_find? h hfind request device).endsWithFailure hruns
      have hlossless := Handler.lossless_of_answer (Prod.mk.inj hanswer).1.symm
      exact ⟨own, rfl, hends.not_isLoss hlossless⟩

theorem exists_own_of_respond_error (h : registry.IsCatalogued) {request : Request}
    (hruns : Dialogue.Runs (recording fair) (respond registry settings request device) before
      (.error failure, d) history) :
    failure.isConnectionLoss = true ∧ ∃ handler own, registry.find? request.kind = some handler ∧
      history = before ++ own ∧
      (∃ past turn, own = past ++ [turn] ∧ turn.failure? = some failure ∧
        ∀ earlier ∈ past, earlier.failure? = none) ∧
      Dialogue.Runs (recording fair) ((handler.handle request).run.run device) []
        (.error failure, d) own := by
  cases hfind : registry.find? request.kind with
  | none =>
      obtain ⟨hanswer, _⟩ := (runs_respond_of_none hfind).mp hruns
      cases hanswer
  | some handler =>
      obtain ⟨outcome, d', hruns, hanswer⟩ := (runs_respond_of_some hfind).mp hruns
      obtain ⟨hanswer, rfl⟩ := Prod.mk.inj hanswer
      obtain ⟨rfl, hloss⟩ := Handler.isConnectionLoss_of_answer hanswer.symm
      obtain ⟨own, rfl, hown⟩ := hruns.exists_own []
      obtain ⟨_, rfl, hends⟩ := (passesOn_of_find? h hfind request device).endsWithFailure hown
      exact ⟨hloss, handler, own, rfl, rfl, hends.exists_loss hloss, hown⟩

/-! ### Any number of actions -/

/-- An interrupted run, after one more action that has its response and lost nothing. -/
theorem Interrupted.cons (h : Interrupted fair registry actions actions' failure own')
    {completed : Action} (hrequest : completed.request = action.request)
    (hcompleted : completed.isCompleted = true) (hown : ∀ turn ∈ own, ¬ turn.IsLoss) :
    Interrupted fair registry (action :: actions) (completed :: actions') failure
      (own ++ own') := by
  obtain ⟨hloss, ⟨past, turn, hturn, hfailure, hearlier⟩, ⟨front, front', affected, back, rfl, rfl,
    hresponse, hrequests, hdone, handler, device, device', others, last, hfind, hlast, hne,
    hruns⟩⟩ := h
  refine ⟨hloss, ⟨own ++ past, turn, by simp [hturn], hfailure, ?_⟩, ?_⟩
  · intro earlier hmem
    rcases List.mem_append.mp hmem with hmem | hmem
    · exact hown earlier hmem
    · exact hearlier earlier hmem
  · refine ⟨action :: front, completed :: front', affected, back, rfl, rfl, hresponse, ?_, ?_,
      handler, device, device', own ++ others, last, hfind, by simp [hlast], hne, hruns⟩
    · rw [List.map_cons, List.map_cons, hrequest, hrequests]
    · intro done hmem
      rcases List.mem_cons.mp hmem with rfl | hmem
      · exact hcompleted
      · exact hdone done hmem

theorem Ending.cons (h : Ending fair registry actions actions' own' result) {completed : Action}
    (hrequest : completed.request = action.request) (hcompleted : completed.isCompleted = true)
    (hown : ∀ turn ∈ own, ¬ turn.IsLoss) :
    Ending fair registry (action :: actions) (completed :: actions') (own ++ own') result := by
  cases result with
  | ok _ =>
      intro turn hturn
      rcases List.mem_append.mp hturn with hturn | hturn
      · exact hown turn hturn
      · exact h turn hturn
  | error failure => exact Interrupted.cons h hrequest hcompleted hown

theorem exists_ending_of_runActions (h : registry.IsCatalogued)
    (hruns : Dialogue.Runs (recording fair) ((runActions registry settings actions).run device)
      before ((actions', result), d) history) :
    ∃ own, history = before ++ own ∧ Ending fair registry actions actions' own result := by
  induction actions generalizing device before actions' with
  | nil =>
      obtain ⟨⟨rfl, rfl⟩, rfl, rfl⟩ := runs_runActions_nil.mp hruns
      exact ⟨[], by simp, fun turn hturn => absurd hturn List.not_mem_nil⟩
  | cons action rest ih =>
      cases hcompleted : action.isCompleted with
      | true =>
          obtain ⟨rest', rfl, hrest⟩ := (runs_runActions_of_completed hcompleted).mp hruns
          obtain ⟨own, rfl, hending⟩ := ih hrest
          refine ⟨own, rfl, ?_⟩
          exact hending.cons rfl hcompleted fun turn hturn => absurd hturn List.not_mem_nil
      | false =>
          obtain ⟨answer, d₁, middle, hrespond, hrest⟩ :=
            (runs_runActions_of_pending hcompleted).mp hruns
          cases answer with
          | ok response =>
              obtain ⟨rest', rfl, hrest⟩ := hrest
              obtain ⟨own, rfl, hown⟩ := exists_own_of_respond_ok h hrespond
              obtain ⟨own', rfl, hending⟩ := ih hrest
              exact ⟨own ++ own', by simp, hending.cons rfl rfl hown⟩
          | error failure =>
              obtain ⟨⟨rfl, rfl⟩, rfl, rfl⟩ := hrest
              obtain ⟨hloss, handler, own, hfind, rfl, ⟨past, turn, rfl, hturn, hearlier⟩, hown⟩ :=
                exists_own_of_respond_error h hrespond
              refine ⟨past ++ [turn], rfl, hloss, ⟨past, turn, rfl, hturn, ?_⟩, ?_⟩
              · rintro earlier hmem ⟨failure', hfailure', _⟩
                rw [hearlier earlier hmem] at hfailure'
                cases hfailure'
              · exact ⟨[], [], action, rest, rfl, rfl, by simpa [Action.isCompleted] using hcompleted,
                  rfl, by simp, handler, device, d, [], past ++ [turn], hfind, rfl, by simp, hown⟩

end Bundle

/-- Every command ends with the first failure of the world, with that failure, and fails as if the
connection were lost only if the world did. In a bundle the loss of the connection ends the run: it
happens in the last turn, and leaves the action that was being carried out and those after it as they
were. -/
theorem Command.loss_is_last :
    (∀ command ∈ handlers ++ standalone, ∀ input device r d history,
      Dialogue.Runs (recording fun _ => True) ((command.execute input).run.run device) [] (r, d)
        history → EndsWithFailure history r) ∧
    ∀ registry : Registry, registry.IsCatalogued →
      ∀ (settings : Settings) (bundle bundle' : Bundle) device result d history,
      Dialogue.Runs (recording fun _ => True) ((bundle.run registry settings).run device) []
        ((bundle', result), d) history →
      Bundle.Ending (fun _ => True) registry bundle.actions bundle'.actions history result := by
  constructor
  · intro command hcommand input device r d history hruns
    obtain ⟨own, rfl, hends⟩ := (passesOn_execute_of_mem hcommand input device).endsWithFailure hruns
    exact hends
  · intro registry hregistry settings bundle bundle' device result d history hruns
    obtain ⟨own, rfl, hending⟩ :=
      Bundle.exists_ending_of_runActions hregistry (Bundle.runs_run_iff.mp hruns)
    exact hending

/-- A world in which the meter does not answer in time. -/
def untimelyAnswer : (question : Question) → Answer question
  | .read _ => .error .timeout
  | .readBatch _ => .error .timeout
  | question => obligingAnswer question

theorem exists_runs_untimely {α : Type} (d : Session α) {a : α}
    (h : d.run (fun question (_ : Unit) => (untimelyAnswer question, ())) () = (a, ())) :
    ∃ history, Dialogue.Runs (recording fun _ => True) d [] a history :=
  Dialogue.exists_history_of_run (fun _ => trivial) h

/-- The registry of the command that reads the administrative status. -/
def statusRegistry : Registry :=
  ⟨[(.getAdministrativeStatus, Command.getAdministrativeStatus.toHandler)]⟩

theorem isCatalogued_statusRegistry : statusRegistry.IsCatalogued := by
  intro entry hentry
  obtain rfl := List.mem_singleton.mp hentry
  exact ⟨Command.getAdministrativeStatus, by simp [Command.handlers], rfl⟩

theorem Command.loss_is_last_of_timeout :
    (∃ d history, Dialogue.Runs (recording fun _ => True)
        ((getAdministrativeStatus.execute ()).run.run keyedDevice) [] (.error .timeout, d) history ∧
      ∃ past turn, history = past ++ [turn] ∧ turn.failure? = some .timeout) ∧
    ∃ bundle' d history, Dialogue.Runs (recording fun _ => True)
        (((Bundle.ofRequests [.getFirmwareVersions, .getAdministrativeStatus,
          .getAdministrativeStatus]).run statusRegistry {}).run keyedDevice) []
        ((bundle', .error .timeout), d) history ∧
      bundle'.pending = 2 ∧ Bundle.Ending (fun _ => True) statusRegistry
        (Bundle.ofRequests [.getFirmwareVersions, .getAdministrativeStatus,
          .getAdministrativeStatus]).actions bundle'.actions history (.error .timeout) := by
  obtain ⟨hcommands, hbundles⟩ := loss_is_last
  constructor
  · obtain ⟨d, hrun⟩ : ∃ d, ((getAdministrativeStatus.execute ()).run.run keyedDevice).run
        (fun question (_ : Unit) => (untimelyAnswer question, ())) () =
          ((.error .timeout, d), ()) := ⟨_, rfl⟩
    obtain ⟨history, hruns⟩ := exists_runs_untimely _ hrun
    have hends := hcommands getAdministrativeStatus (by simp [handlers]) () _ _ _ _ hruns
    exact ⟨d, history, hruns, hends.cause .timeout rfl rfl⟩
  · obtain ⟨bundle', d, hrun, hpending⟩ : ∃ bundle' d,
        (((Bundle.ofRequests [.getFirmwareVersions, .getAdministrativeStatus,
          .getAdministrativeStatus]).run statusRegistry {}).run keyedDevice).run
        (fun question (_ : Unit) => (untimelyAnswer question, ())) () =
          (((bundle', .error .timeout), d), ()) ∧ bundle'.pending = 2 := ⟨_, _, rfl, rfl⟩
    obtain ⟨history, hruns⟩ := exists_runs_untimely _ hrun
    exact ⟨bundle', d, history, hruns, hpending,
      hbundles _ isCatalogued_statusRegistry _ _ _ _ _ _ _ hruns⟩

end HeadEnd
