import HeadEnd.Proofs.Bundle.Run
import HeadEnd.Proofs.Command.Registry
import HeadEnd.Proofs.Key.Staging
import HeadEnd.Proofs.Session.Operation

/-! # Requests and their commands

The data of a request, the command that answers it and the response that it gets belong to one kind.
A request reaches the command of its kind, that command takes the data out of it, and every other
command refuses it before anything is asked. What a run gives to a request is a fault or a response
of its kind.
-/

namespace HeadEnd

/-! ## What belongs to a kind -/

def RequestKind.Payload : RequestKind → Type
  | synchronizeTime => Clock.LocalSetting
  | setClockConfiguration => Clock.Configuration
  | setSpecialDays => List SpecialDay
  | setAlarmNotifications => List AlarmNotification
  | setPushSetupAlarm | setPushSetupSms => PushSetup
  | findEvents => EventQuery
  | getPeriodicMeterReads => ElectricityQuery
  | getPeriodicMeterReadsGas => GasQuery
  | setKeys => KeyPair
  | setConfigurationObject => ConfigurationObject
  | getAdministrativeStatus | getPushSetupAlarm | getPushSetupSms | getAssociationLnObjects
  | getFirmwareVersions => Unit

def Request.payload : (request : Request) → request.kind.Payload
  | synchronizeTime setting => setting
  | setClockConfiguration configuration => configuration
  | setSpecialDays days => days
  | setAlarmNotifications notifications => notifications
  | setPushSetupAlarm setup => setup
  | setPushSetupSms setup => setup
  | findEvents query => query
  | getPeriodicMeterReads query => query
  | getPeriodicMeterReadsGas query => query
  | setKeys keys => keys
  | setConfigurationObject configuration => configuration
  | getAdministrativeStatus => ()
  | getPushSetupAlarm => ()
  | getPushSetupSms => ()
  | getAssociationLnObjects => ()
  | getFirmwareVersions => ()

/-- The response may be given to requests of the kind: a fault, what was asked for, or the
confirmation of a change. -/
def Response.IsFor : Response → RequestKind → Prop
  | fault _, _ => True
  | administrativeStatus _, kind => kind = .getAdministrativeStatus
  | events _, kind => kind = .findEvents
  | periodicMeterReads _, kind => kind = .getPeriodicMeterReads
  | periodicMeterReadsGas _, kind => kind = .getPeriodicMeterReadsGas
  | pushSetup _, kind => kind = .getPushSetupAlarm ∨ kind = .getPushSetupSms
  | associationLnObjects _, kind => kind = .getAssociationLnObjects
  | firmwareVersions _, kind => kind = .getFirmwareVersions
  | ok _, kind => kind ∈ [.synchronizeTime, .setClockConfiguration, .setSpecialDays,
      .setAlarmNotifications, .setPushSetupAlarm, .setPushSetupSms, .setKeys,
      .setConfigurationObject]

/-! ## Commands -/

namespace Command

def answering : RequestKind → Command
  | .getAdministrativeStatus => getAdministrativeStatus
  | .synchronizeTime => synchronizeTime
  | .setClockConfiguration => setClockConfiguration
  | .setSpecialDays => setSpecialDays
  | .setAlarmNotifications => setAlarmNotifications
  | .getPushSetupAlarm => getPushSetup .alarm
  | .getPushSetupSms => getPushSetup .sms
  | .setPushSetupAlarm => setPushSetup .alarm
  | .setPushSetupSms => setPushSetup .sms
  | .findEvents => findEvents
  | .getPeriodicMeterReads => getPeriodicMeterReads
  | .getPeriodicMeterReadsGas => getPeriodicMeterReadsGas
  | .getAssociationLnObjects => getAssociationLnObjects
  | .setKeys => setKeys
  | .setConfigurationObject => setConfigurationObject
  | .getFirmwareVersions => getFirmwareVersions

theorem find?_handlers (kind : RequestKind) :
    (handlers.find? fun command => command.toHandler.kind? == some kind) =
      some (answering kind) := by
  cases kind <;> rfl

/-- The command takes the data of the request out of it. -/
def Extracts (command : Command) (request : Request) : Prop :=
  ∃ handling input, command.handling = some handling ∧ handling.kind = request.kind ∧
    handling.input? request = some input ∧ HEq input request.payload

theorem extracts_answering (request : Request) : (answering request.kind).Extracts request := by
  cases request <;> exact ⟨_, _, rfl, rfl, rfl, HEq.rfl⟩

/-- A request of another kind is refused before anything is asked. -/
theorem handle_answering_of_ne {kind : RequestKind} {request : Request} (h : kind ≠ request.kind) :
    (answering kind).handle request =
      throw (.protocol (.misdirected (answering kind).name request.kind)) := by
  cases kind <;> cases request <;> first | rfl | exact absurd rfl h

theorem eq_ok_of_confirmWrite {context confirmation : String} {result : AccessResult}
    {response : Response} (h : confirmWrite context confirmation result = .ok response) :
    response = .ok confirmation := by
  unfold confirmWrite at h
  cases hcheck : result.check context with
  | ok _ =>
      rw [hcheck] at h
      exact (Except.ok.inj h).symm
  | error failure =>
      rw [hcheck] at h
      cases h

/-- What a command responds belongs to the kind that it answers. -/
theorem isFor_of_respond {kind : RequestKind}
    {handling : Handling (answering kind).Input (answering kind).Output}
    (hhandling : (answering kind).handling = some handling) {output : (answering kind).Output}
    {response : Response} (h : handling.respond output = .ok response) : response.IsFor kind := by
  cases kind
  case getAdministrativeStatus | findEvents | getPeriodicMeterReads | getPeriodicMeterReadsGas
      | getAssociationLnObjects | getFirmwareVersions =>
    cases hhandling
    cases h
    rfl
  case getPushSetupAlarm =>
    cases hhandling
    cases h
    exact .inl rfl
  case getPushSetupSms =>
    cases hhandling
    cases h
    exact .inr rfl
  case setClockConfiguration | setKeys =>
    cases hhandling
    cases h
    simp [Response.IsFor]
  case synchronizeTime | setSpecialDays | setAlarmNotifications | setPushSetupAlarm
      | setPushSetupSms | setConfigurationObject =>
    cases hhandling
    rw [eq_ok_of_confirmWrite h]
    simp [Response.IsFor]

/-- However a command runs for a request of its kind, what it responds belongs to that kind. -/
theorem isFor_of_runs_handle {σ : Type} {rules : Rules Answer σ} {request : Request}
    {device d : Device} {s t : σ} {response : Response}
    (h : Dialogue.Runs rules (((answering request.kind).handle request).run.run device) s
      (.ok response, d) t) : response.IsFor request.kind := by
  obtain ⟨handling, input, hhandling, -, hinput, -⟩ := extracts_answering request
  have hsteps : (answering request.kind).handle request =
      ((answering request.kind).execute input >>= fun output =>
        liftM (handling.respond output)) := by
    unfold handle
    rw [hhandling]
    dsimp only
    rw [hinput]
  have hensures : Task.Ensures rules ((answering request.kind).handle request) device s
      fun outcome _ _ => ∀ response, outcome = .ok response → response.IsFor request.kind := by
    rw [hsteps, Task.ensures_bind]
    intro outcome t _
    match outcome with
    | (.error failure, d) =>
        intro response hresponse
        cases hresponse
    | (.ok output, d) =>
        refine Operation.ensures_lift.mpr fun response hresponse => ?_
        exact isFor_of_respond hhandling hresponse
  exact hensures _ _ h response rfl

end Command

/-! ## Runs -/

namespace Bundle

/-- What a run makes of actions, one after the other: those that have a response keep it, the others
get a response of their kind, until the run ends with one that gets none. -/
inductive Answers : List Action → List Action → Outcome Unit → Prop where
  | nil : Answers [] [] (.ok ())
  | completed {action rest rest' result} : action.isCompleted = true → Answers rest rest' result →
      Answers (action :: rest) (action :: rest') result
  | answered {action response rest rest' result} : action.isCompleted = false →
      response.IsFor action.request.kind → Answers rest rest' result →
      Answers (action :: rest) ({ action with response := some response } :: rest') result
  | aborted {action rest failure} : action.isCompleted = false →
      Answers (action :: rest) (action :: rest) (.error failure)

variable {σ : Type} {rules : Rules Answer σ} {registry : Registry} {settings : Settings}
  {device d : Device} {s t : σ}

theorem isFor_of_respond {request : Request} {response : Response}
    (hfind : registry.find? request.kind = some (Command.answering request.kind).toHandler)
    (h : Dialogue.Runs rules (respond registry settings request device) s (.ok response, d) t) :
    response.IsFor request.kind := by
  obtain ⟨outcome, d', hruns, hanswer⟩ := (runs_respond_of_some hfind).mp h
  obtain ⟨hanswer, -⟩ := Prod.mk.inj hanswer
  unfold Handler.answer at hanswer
  cases outcome with
  | ok own =>
      obtain rfl := Except.ok.inj hanswer
      exact Command.isFor_of_runs_handle hruns
  | error failure =>
      dsimp only at hanswer
      split at hanswer
      · cases hanswer
      · obtain rfl := Except.ok.inj hanswer
        trivial

theorem answers_of_runActions
    (hfind : ∀ kind, registry.find? kind = some (Command.answering kind).toHandler)
    {actions actions' : List Action} {result : Outcome Unit}
    (h : Dialogue.Runs rules ((runActions registry settings actions).run device) s
      ((actions', result), d) t) : Answers actions actions' result := by
  induction actions generalizing device s actions' with
  | nil =>
      obtain ⟨⟨rfl, rfl⟩, -⟩ := runs_runActions_nil.mp h
      exact .nil
  | cons action rest ih =>
      cases hcompleted : action.isCompleted with
      | true =>
          obtain ⟨rest', rfl, hrest⟩ := (runs_runActions_of_completed hcompleted).mp h
          exact .completed hcompleted (ih hrest)
      | false =>
          obtain ⟨answer, d₁, s₁, hrespond, hrest⟩ := (runs_runActions_of_pending hcompleted).mp h
          cases answer with
          | ok response =>
              obtain ⟨rest', rfl, hrest⟩ := hrest
              exact .answered hcompleted (isFor_of_respond (hfind _) hrespond) (ih hrest)
          | error failure =>
              obtain ⟨⟨rfl, rfl⟩, -⟩ := hrest
              exact .aborted hcompleted

end Bundle

/-! ## The standard registry -/

namespace Registry

theorem find?_standard {registry : Registry} (h : standard = .ok registry) (kind : RequestKind) :
    registry.find? kind = some (Command.answering kind).toHandler := by
  rw [eq_offerEach_of_registerAll h, find?_offerEach, Command.find?_handlers]
  rfl

/-- The registry of all commands exists. In it a request finds the command that takes its data out
of it; the command of any other kind refuses it before anything is asked; and a run gives it a fault
or a response of its kind, whatever the meter and the other sides of the run do. This registry and
the empty one are first come, first served. -/
theorem dispatch_sound :
    ∃ registry : Registry, standard = .ok registry ∧
      (∀ request : Request, ∃ command : Command,
        registry.find? request.kind = some command.toHandler ∧ command.Extracts request) ∧
      (∀ (request : Request) kind handler, registry.find? kind = some handler →
        kind ≠ request.kind →
        handler.handle request = throw (.protocol (.misdirected handler.name request.kind))) ∧
      (∀ (σ : Type) (rules : Rules Answer σ) settings (bundle bundle' : Bundle) result device d s t,
        Dialogue.Runs rules ((bundle.run registry settings).run device) s ((bundle', result), d) t →
        Bundle.Answers bundle.actions bundle'.actions result) ∧
      empty.IsFirstCome [] ∧ registry.IsFirstCome Command.handlers := by
  obtain ⟨registry, hstandard⟩ : ∃ registry, standard = .ok registry := ⟨_, rfl⟩
  have hfind := find?_standard hstandard
  refine ⟨registry, hstandard, ?_, ?_, ?_, isFirstCome_offerEach [], ?_⟩
  · intro request
    exact ⟨_, hfind request.kind, Command.extracts_answering request⟩
  · intro request kind handler hhandler hkind
    obtain rfl := Option.some.inj ((hfind kind).symm.trans hhandler)
    exact Command.handle_answering_of_ne hkind
  · intro σ rules settings bundle bundle' result device d s t hruns
    exact Bundle.answers_of_runActions hfind (Bundle.runs_run_iff.mp hruns)
  · rw [eq_offerEach_of_registerAll hstandard]
    exact isFirstCome_offerEach Command.handlers

theorem dispatch_sound_of_obliging :
    ∃ registry : Registry, standard = .ok registry ∧
      (∃ handler, registry.find? .getPushSetupAlarm = some handler ∧
        handler.handle .getPushSetupSms =
          throw (.protocol (.misdirected handler.name .getPushSetupSms))) ∧
      (∃ bundle' d history, Dialogue.Runs (recording Turn.IsFaithful)
          (((Bundle.ofRequests [.setSpecialDays [], .getPushSetupSms]).run registry {}).run
            keyedDevice) [] ((bundle', .ok ()), d) history ∧ bundle'.pending = 0 ∧
        Bundle.Answers [⟨.setSpecialDays [], none⟩, ⟨.getPushSetupSms, none⟩] bundle'.actions
          (.ok ())) ∧
      empty.offerEach [Command.replaceKey] = empty ∧
      registry.offerEach [Command.setKeys, Command.replaceKey] = registry := by
  obtain ⟨registry, hstandard, hextracts, hrefuses, hanswers, hempty, hfirst⟩ := dispatch_sound
  obtain rfl := eq_offerEach_of_registerAll hstandard
  refine ⟨_, hstandard, ⟨_, rfl, hrefuses _ .getPushSetupAlarm _ rfl nofun⟩, ?_,
    hempty.kept [] _ _ [] rfl,
    (hfirst.kept [] _ _ [Command.replaceKey] rfl).trans (hfirst.kept [] _ _ [] rfl)⟩
  obtain ⟨bundle', d, hrun, hpending⟩ : ∃ bundle' d,
      (((Bundle.ofRequests [.setSpecialDays [], .getPushSetupSms]).run
        (empty.offerEach Command.handlers) {}).run keyedDevice).run
        (fun question (_ : Unit) => (obligingAnswer question, ())) () =
          (((bundle', .ok ()), d), ()) ∧ bundle'.pending = 0 := ⟨_, _, rfl, rfl⟩
  obtain ⟨history, hruns⟩ := exists_runs_obliging _ hrun
  exact ⟨bundle', d, history, hruns, hpending, hanswers _ _ _ _ _ _ _ _ _ _ hruns⟩

end Registry

end HeadEnd
