import HeadEnd.Proofs.Command.Dispatch
import HeadEnd.Proofs.Command.Loss
import HeadEnd.Proofs.Session.Steady

/-! # Bundles that only read

A request that reads asks the meter for nothing else, changes neither the meter nor the device
record, and gets the same response wherever it stands in a bundle of such requests.
-/

namespace HeadEnd

open Operation

/-! ## Commands that only read -/

/-- What is asked for is read from the meter. -/
def Request.IsReading : Request → Prop
  | getAdministrativeStatus | getPushSetupAlarm | getPushSetupSms | findEvents _
  | getPeriodicMeterReads _ | getPeriodicMeterReadsGas _ | getAssociationLnObjects
  | getFirmwareVersions => True
  | _ => False

theorem Operation.keeps_isRead_readValues (context : String) (addresses : List AttributeAddress) :
    Task.Keeps Question.IsRead (readValues context addresses) :=
  keeps_readValues context trivial fun _ _ => trivial

theorem Operation.keeps_isRead_readValue (context : String) (address : AttributeAddress) :
    Task.Keeps Question.IsRead (readValue context address) :=
  keeps_readValue context trivial trivial

theorem Operation.keeps_isRead_describe (text : String) :
    Task.Keeps Question.IsRead (describe text) :=
  keeps_ask trivial

theorem AdministrativeStatus.keeps_isRead_fetch :
    Task.Keeps Question.IsRead AdministrativeStatus.fetch := by
  apply (keeps_isRead_describe _).bind
  intro _
  apply (keeps_isRead_readValue _ _).bind
  intro value
  apply (keeps_lift _).bind
  intro code
  cases code with
  | none => exact Task.keeps_throw _
  | some code => exact Task.keeps_pure _

theorem PushSetup.keeps_isRead_fetch (target : PushTarget) :
    Task.Keeps Question.IsRead (PushSetup.fetch target) := by
  apply (keeps_isRead_describe _).bind
  intro _
  refine (keeps_isRead_readValues _ _).bind fun
    | ⟨[objects, destination, windows, interval, retries, delay], _⟩ => ?_
  refine (keeps_lift _).bind fun _ => (keeps_lift _).bind fun _ => (keeps_lift _).bind fun _ => ?_
  refine (keeps_lift _).bind fun _ => (keeps_lift _).bind fun _ => (keeps_lift _).bind fun _ => ?_
  exact Task.keeps_pure _

theorem ElectricityQuery.keeps_isRead_fetch (query : ElectricityQuery) :
    Task.Keeps Question.IsRead query.fetch := by
  refine (keeps_lift _).bind fun scalerUnitAddress => Task.keeps_get.bind fun device => ?_
  refine (keeps_lift _).bind fun bufferAddress => (keeps_isRead_describe _).bind fun _ => ?_
  apply (keeps_isRead_readValue _ _).bind
  intro buffer
  refine (keeps_isRead_describe _).bind fun _ => (keeps_readAttribute trivial).bind fun _ => ?_
  exact (keeps_lift _).bind fun _ => (keeps_lift _).bind fun _ => Task.keeps_pure _

theorem GasQuery.keeps_isRead_fetch (query : GasQuery) :
    Task.Keeps Question.IsRead query.fetch := by
  refine (keeps_lift _).bind fun _ => Task.keeps_get.bind fun device => ?_
  refine (keeps_lift _).bind fun bufferAddress => (keeps_isRead_describe _).bind fun _ => ?_
  apply (keeps_isRead_readValue _ _).bind
  intro buffer
  apply (keeps_isRead_describe _).bind
  intro _
  apply (keeps_isRead_readValue _ _).bind
  intro scalerUnit
  exact (keeps_lift _).bind fun _ => Task.keeps_pure _

theorem Association.keeps_isRead_fetchObjects :
    Task.Keeps Question.IsRead Association.fetchObjects := by
  apply (keeps_isRead_describe _).bind
  intro _
  apply (keeps_isRead_readValue _ _).bind
  intro value
  exact keeps_lift _

theorem FirmwareVersion.keeps_isRead_fetchAll :
    Task.Keeps Question.IsRead FirmwareVersion.fetchAll := by
  apply (keeps_isRead_describe _).bind
  intro _
  apply (keeps_isRead_readValues _ _).bind
  intro values
  exact keeps_lift _

theorem Command.keeps_isRead_handle {request : Request} (h : request.IsReading) :
    Task.Keeps Question.IsRead ((answering request.kind).handle request) := by
  have hresponse {α : Type} {execute : Operation α} {respond : α → Outcome Response}
      (hexecute : Task.Keeps Question.IsRead execute) :
      Task.Keeps Question.IsRead (execute >>= fun output => liftM (respond output)) :=
    hexecute.bind fun _ => keeps_lift _
  cases request with
  | getAdministrativeStatus => exact hresponse AdministrativeStatus.keeps_isRead_fetch
  | getPushSetupAlarm => exact hresponse (PushSetup.keeps_isRead_fetch .alarm)
  | getPushSetupSms => exact hresponse (PushSetup.keeps_isRead_fetch .sms)
  | findEvents query => exact hresponse (EventQuery.keeps_isRead_fetch query)
  | getPeriodicMeterReads query => exact hresponse query.keeps_isRead_fetch
  | getPeriodicMeterReadsGas query => exact hresponse query.keeps_isRead_fetch
  | getAssociationLnObjects => exact hresponse Association.keeps_isRead_fetchObjects
  | getFirmwareVersions => exact hresponse FirmwareVersion.keeps_isRead_fetchAll
  | _ => exact h.elim

/-! ## One request -/

namespace Bundle

variable {σ : Type} {rules : Rules Answer σ} {registry : Registry} {settings : Settings}
  {device : Device} {s : σ}

theorem within_isRead_respond (hregistry : Registry.standard = .ok registry) {request : Request}
    (h : request.IsReading) :
    (respond registry settings request device).Within Question.IsRead fun r => r.2 = device := by
  rw [respond_of_some (Registry.find?_standard hregistry request.kind)]
  apply (Command.keeps_isRead_handle h device).bind
  rintro ⟨outcome, d⟩ rfl
  exact .done rfl

/-- A request that reads gets one response from a steady meter, whatever was read before. -/
theorem exists_comesTo_respond (hregistry : Registry.standard = .ok registry)
    (hsteady : IsSteady rules s) {request : Request} (h : request.IsReading) :
    ∃ response,
      ComesTo rules s (respond registry settings request device) (.ok response, device) := by
  have hwithin : (respond registry settings request device).Within Question.IsRead _ :=
    within_isRead_respond hregistry h
  obtain ⟨⟨outcome, d⟩, rfl, hcomes⟩ := hsteady.exists_comesTo hwithin
  cases outcome with
  | ok response => exact ⟨response, hcomes⟩
  | error failure =>
      -- only the loss of the connection leaves a request without a response
      obtain ⟨u, hruns⟩ := (hcomes s .refl).1
      obtain ⟨history, hhistory⟩ := hsteady.exists_history hwithin .refl hruns []
      obtain ⟨hloss, _, own, _, rfl, ⟨past, turn, rfl, hturn, _⟩, _⟩ :=
        exists_own_of_respond_error (Registry.isCatalogued_of_standard hregistry) hhistory
      have hkept := hhistory.forall_fair (fun _ hturn => absurd hturn List.not_mem_nil) turn
      exact absurd ⟨failure, hturn, hloss⟩ (hkept (by simp))

end Bundle

/-! ## Any number of requests -/

/-- The action with the response to its request, or with the response that it has. -/
def Action.answeredBy (response : Request → Response) (action : Action) : Action :=
  { action with response := some (action.response.getD (response action.request)) }

namespace Action

variable {response : Request → Response} {action : Action}

theorem answeredBy_of_isCompleted (h : action.isCompleted = true) :
    action.answeredBy response = action := by
  obtain ⟨own, hown⟩ := Option.isSome_iff_exists.mp h
  cases action
  cases hown
  rfl

theorem answeredBy_of_pending (h : action.isCompleted = false) :
    action.answeredBy response = { action with response := some (response action.request) } := by
  have hnone : action.response = none := by simpa [isCompleted] using h
  rw [answeredBy, hnone]
  rfl

end Action

namespace Bundle

variable {σ : Type} {rules : Rules Answer σ} {registry : Registry} {settings : Settings}
  {device : Device} {s : σ} {response : Request → Response} {action : Action}
  {actions rest : List Action}

theorem comesTo_runActions_of_completed {actions' : List Action} {result : Outcome Unit}
    (hcompleted : action.isCompleted = true)
    (hrest : ComesTo rules s ((runActions registry settings rest).run device)
      ((actions', result), device)) :
    ComesTo rules s ((runActions registry settings (action :: rest)).run device)
      ((action :: actions', result), device) := by
  intro t ht
  constructor
  · obtain ⟨u, hruns⟩ := (hrest t ht).1
    exact ⟨u, (runs_runActions_of_completed hcompleted).mpr ⟨_, rfl, hruns⟩⟩
  · rintro ⟨⟨actions'', result'⟩, d⟩ u hruns
    obtain ⟨rest', rfl, hothers⟩ := (runs_runActions_of_completed hcompleted).mp hruns
    obtain ⟨heq, hu⟩ := (hrest t ht).2 _ _ hothers
    cases heq
    exact ⟨rfl, hu⟩

theorem comesTo_runActions_of_pending {actions' : List Action} {result : Outcome Unit}
    {own : Response} (hpending : action.isCompleted = false)
    (hown : ComesTo rules s (respond registry settings action.request device) (.ok own, device))
    (hrest : ComesTo rules s ((runActions registry settings rest).run device)
      ((actions', result), device)) :
    ComesTo rules s ((runActions registry settings (action :: rest)).run device)
      (({ action with response := some own } :: actions', result), device) := by
  intro t ht
  constructor
  · obtain ⟨t', hfirst⟩ := (hown t ht).1
    obtain ⟨u, hruns⟩ := (hrest t' ((hown t ht).2 _ _ hfirst).2).1
    exact ⟨u, (runs_runActions_of_pending hpending).mpr ⟨_, _, t', hfirst, _, rfl, hruns⟩⟩
  · rintro ⟨⟨actions'', result'⟩, d⟩ u hruns
    obtain ⟨answer, d₁, t', hfirst, hsecond⟩ := (runs_runActions_of_pending hpending).mp hruns
    obtain ⟨heq, ht'⟩ := (hown t ht).2 _ _ hfirst
    cases heq
    obtain ⟨rest', rfl, hothers⟩ := hsecond
    obtain ⟨heq, hu⟩ := (hrest t' ht').2 _ _ hothers
    cases heq
    exact ⟨rfl, hu⟩

/-- Requests with a response of their own each, whatever was read before, all get it in one run. -/
theorem comesTo_runActions
    (hresponse : ∀ action ∈ actions, ComesTo rules s
      (respond registry settings action.request device) (.ok (response action.request), device)) :
    ComesTo rules s ((runActions registry settings actions).run device)
      ((actions.map (Action.answeredBy response), .ok ()), device) := by
  induction actions with
  | nil => exact comesTo_done _
  | cons action rest ih =>
      obtain ⟨hown, hothers⟩ := List.forall_mem_cons.mp hresponse
      rw [List.map_cons]
      cases hcompleted : action.isCompleted with
      | true =>
          rw [Action.answeredBy_of_isCompleted hcompleted]
          exact comesTo_runActions_of_completed hcompleted (ih hothers)
      | false =>
          rw [Action.answeredBy_of_pending hcompleted]
          exact comesTo_runActions_of_pending hcompleted hown (ih hothers)

theorem within_isRead_runActions (hregistry : Registry.standard = .ok registry)
    (h : ∀ action ∈ actions, action.request.IsReading) :
    ((runActions registry settings actions).run device).Within Question.IsRead
      fun r => r.2 = device := by
  induction actions with
  | nil => exact .done rfl
  | cons action rest ih =>
      obtain ⟨haction, hrest⟩ := List.forall_mem_cons.mp h
      unfold runActions
      split
      · apply (ih hrest).bind
        rintro ⟨⟨actions', result⟩, d⟩ rfl
        exact .done rfl
      · apply (within_isRead_respond hregistry haction).bind
        rintro ⟨failure | response, d⟩ rfl
        · exact .done rfl
        · apply (ih hrest).bind
          rintro ⟨⟨actions', result⟩, d⟩ rfl
          exact .done rfl

/-! ## Bundles -/

variable (rules registry settings device s) in
/-- The first bundle runs to its end from the state, and whenever it does, it has become the second
one, nothing was lost and the device record is as it was. -/
def EndsAs (bundle bundle' : Bundle) : Prop :=
  (∃ t, Dialogue.Runs rules ((bundle.run registry settings).run device) s
    ((bundle', .ok ()), device) t) ∧
  ∀ r t, Dialogue.Runs rules ((bundle.run registry settings).run device) s r t →
    r = ((bundle', .ok ()), device)

/-- The actions at the positions, in the order of the positions. -/
def select (bundle : Bundle) (positions : List Nat) : Bundle :=
  ⟨positions.filterMap fun i => bundle.actions[i]?⟩

theorem endsAs_of_comesTo {actions' : List Action}
    (h : ComesTo rules s ((runActions registry settings actions).run device)
      ((actions', .ok ()), device)) :
    EndsAs rules registry settings device s ⟨actions⟩ ⟨actions'⟩ := by
  obtain ⟨⟨u, hruns⟩, honly⟩ := h s .refl
  refine ⟨⟨u, runs_run_iff.mpr hruns⟩, ?_⟩
  rintro ⟨⟨bundle', result⟩, d⟩ t hruns
  obtain ⟨heq, -⟩ := honly _ _ (runs_run_iff.mp hruns)
  cases heq
  rfl

theorem select_map (f : Action → Action) (actions : List Action) (positions : List Nat) :
    select ⟨actions.map f⟩ positions = ⟨(select ⟨actions⟩ positions).actions.map f⟩ := by
  simp [select, List.map_filterMap]

theorem isCompleted_map_answeredBy (actions : List Action) :
    (Bundle.mk (actions.map (Action.answeredBy response))).isCompleted = true := by
  simp [isCompleted, pending, Action.isCompleted, Action.answeredBy]

/-- A bundle of requests that read ends, with a steady meter, in one way only: every action has the
response that it gets as the only action of a bundle, and actions that are put in another order, left
out or repeated get the same responses in that order. Whatever the meter answers, nothing but reads
is asked, so that the device record is never stored, and it stays as it is. -/
theorem reads_do_not_interfere (hregistry : Registry.standard = .ok registry)
    (hsteady : IsSteady rules s) (settings : Settings) (device : Device) (bundle : Bundle)
    (hreading : ∀ action ∈ bundle.actions, action.request.IsReading) :
    (∃ bundle', EndsAs rules registry settings device s bundle bundle' ∧
      bundle'.isCompleted = true ∧
      List.Forall₂ (fun action action' =>
        EndsAs rules registry settings device s ⟨[action]⟩ ⟨[action']⟩)
        bundle.actions bundle'.actions ∧
      ∀ positions, EndsAs rules registry settings device s (bundle.select positions)
        (bundle'.select positions)) ∧
    ∀ r d history, Dialogue.Runs (recording fun _ => True)
        ((bundle.run registry settings).run device) [] (r, d) history →
      d = device ∧ ∀ turn ∈ history, turn.question.IsRead := by
  obtain ⟨actions⟩ := bundle
  constructor
  · have hexists (request : Request) : ∃ response, request.IsReading →
        ComesTo rules s (respond registry settings request device) (.ok response, device) := by
      by_cases hread : request.IsReading
      · obtain ⟨response, hresponse⟩ := exists_comesTo_respond hregistry hsteady hread
        exact ⟨response, fun _ => hresponse⟩
      · exact ⟨.ok "", fun h => absurd h hread⟩
    choose response hresponse using hexists
    have hends (others : List Action) (hothers : ∀ action ∈ others, action.request.IsReading) :
        EndsAs rules registry settings device s ⟨others⟩
          ⟨others.map (Action.answeredBy response)⟩ :=
      endsAs_of_comesTo (comesTo_runActions fun action hmem => hresponse _ (hothers action hmem))
    refine ⟨_, hends actions hreading, isCompleted_map_answeredBy actions, ?_, fun positions => ?_⟩
    · rw [List.forall₂_map_right_iff, List.forall₂_same]
      intro action hmem
      exact hends [action] (List.forall_mem_singleton.mpr (hreading action hmem))
    · rw [select_map]
      refine hends _ fun action hmem => ?_
      obtain ⟨i, -, hi⟩ := List.mem_filterMap.mp hmem
      exact hreading action (List.mem_of_getElem? hi)
  · rintro ⟨bundle', result⟩ d history hruns
    have hwithin : ((runActions registry settings actions).run device).Within Question.IsRead _ :=
      within_isRead_runActions hregistry hreading
    exact hwithin.forall_turns (runs_run_iff.mp hruns)

/-- A world that counts what it is asked and answers as a meter with two logs does. -/
def countingWorld (question : Question) (count : Nat) : Answer question × Nat :=
  (EventQuery.logAnswer question, count + 1)

theorem isSteady_countingWorld :
    IsSteady (fun question count answer count' => countingWorld question count = (answer, count'))
      0 where
  answered _ question _ := ⟨EventQuery.logAnswer question, _, rfl⟩
  alike := by
    rintro _ _ _ _ question _ _ _ _ _ ⟨⟩ ⟨⟩
    rfl
  lossless := by
    rintro _ _ question _ _ hread ⟨⟩ ⟨failure, hfailure, -⟩
    cases question with
    | read _ | readBatch _ | describe _ => cases hfailure
    | _ => exact hread

/-- Events are told wherever they are asked for, also after a fault. -/
theorem reads_do_not_interfere_of_counting :
    ∃ registry bundle' events fault, Registry.standard = .ok registry ∧
      bundle'.responses = [some (.events events), some (.fault fault)] ∧
      EndsAs (fun question count answer count' => countingWorld question count = (answer, count'))
        registry {} keyedDevice 0
        (ofRequests [.findEvents ⟨.standard, juneSpan⟩, .getAdministrativeStatus]) bundle' ∧
      EndsAs (fun question count answer count' => countingWorld question count = (answer, count'))
        registry {} keyedDevice 0
        (ofRequests [.getAdministrativeStatus, .findEvents ⟨.standard, juneSpan⟩,
          .getAdministrativeStatus]) (bundle'.select [1, 0, 1]) := by
  obtain ⟨registry, hregistry⟩ : ∃ registry, Registry.standard = .ok registry := ⟨_, rfl⟩
  obtain ⟨⟨bundle', hends, -, -, hselect⟩, -⟩ :=
    reads_do_not_interfere hregistry isSteady_countingWorld {} keyedDevice
      (ofRequests [.findEvents ⟨.standard, juneSpan⟩, .getAdministrativeStatus])
      (by simp [ofRequests, Request.IsReading])
  obtain ⟨events, fault, hresponses⟩ : ∃ events fault,
      (((ofRequests [.findEvents ⟨.standard, juneSpan⟩, .getAdministrativeStatus]).run
        registry {}).run keyedDevice |>.run countingWorld 0).1.1.1.responses =
          [some (.events events), some (.fault fault)] := by
    obtain rfl := Registry.eq_offerEach_of_registerAll hregistry
    exact ⟨_, _, rfl⟩
  refine ⟨registry, bundle', events, fault, hregistry, ?_, hends, hselect [1, 0, 1]⟩
  rw [← hresponses, hends.2 _ _ ((Dialogue.runs_iff_run_eq countingWorld).mpr rfl)]

end Bundle

end HeadEnd
