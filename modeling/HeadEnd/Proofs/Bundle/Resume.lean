import HeadEnd.Proofs.Bundle.Run
import HeadEnd.Proofs.Exchange.Service
import HeadEnd.Rehearsal.World

/-! # Resuming a bundle

What any number of calls makes of a bundle, whatever its commands do and wherever the connection is
lost. The commands that are carried out are recorded with the position of their action, and every
response is traced back to the execution that gave it.
-/

namespace HeadEnd.Bundle

variable {σ : Type} {settings : Settings} {registry : Registry}

/-! ## Executions -/

/-- A command that was carried out for the action at a position: how it ended, and the device as it
left it. -/
structure Execution where
  position : Nat
  handler : Handler
  outcome : Outcome Response
  device : Device

namespace Execution

/-- The response that an execution gives to its action, unless the connection was lost. -/
def answer? (settings : Settings) (execution : Execution) : Option Response :=
  (execution.handler.answer settings execution.device.identification execution.outcome).toOption

/-- The same execution, seen from one action further ahead. -/
def later (execution : Execution) : Execution :=
  { execution with position := execution.position + 1 }

@[simp] theorem position_later (execution : Execution) :
    execution.later.position = execution.position + 1 := rfl

@[simp] theorem answer?_later (execution : Execution) :
    execution.later.answer? settings = execution.answer? settings := rfl

end Execution

/-- The commands of the executions are carried out one after the other, each for its action. -/
inductive Performs (rules : Rules Answer σ) (registry : Registry) (actions : List Action) :
    List Execution → Device → σ → Device → σ → Prop where
  | nil {d s} : Performs rules registry actions [] d s d s
  | cons {execution executions action d s s₁ d' t} :
      actions[execution.position]? = some action →
      registry.find? action.request.kind = some execution.handler →
      Dialogue.Runs rules ((execution.handler.handle action.request).run.run d) s
        (execution.outcome, execution.device) s₁ →
      Performs rules registry actions executions execution.device s₁ d' t →
      Performs rules registry actions (execution :: executions) d s d' t

theorem Performs.later {rules : Rules Answer σ} {actions : List Action}
    {executions : List Execution} {d d' : Device} {s t : σ} (action : Action)
    (h : Performs rules registry actions executions d s d' t) :
    Performs rules registry (action :: actions) (executions.map Execution.later) d s d' t := by
  induction h with
  | nil => exact .nil
  | cons haction hfind hruns _ ih => exact .cons haction hfind hruns ih

theorem Performs.append {rules : Rules Answer σ} {actions : List Action}
    {executions executions' : List Execution} {d d₁ d' : Device} {s s₁ t : σ}
    (h : Performs rules registry actions executions d s d₁ s₁)
    (h' : Performs rules registry actions executions' d₁ s₁ d' t) :
    Performs rules registry actions (executions ++ executions') d s d' t := by
  induction h with
  | nil => exact h'
  | cons haction hfind hruns _ ih => exact .cons haction hfind hruns (ih h')

/-! ## Responses -/

/-- The response to the action at a position, once it has one. -/
def responseAt (actions : List Action) (i : Nat) : Option Response :=
  actions[i]?.bind Action.response

@[simp] theorem responseAt_cons_zero (action : Action) (rest : List Action) :
    responseAt (action :: rest) 0 = action.response := rfl

/-- The response of the first execution for the action at a position that gives one. -/
def answerAt (settings : Settings) (executions : List Execution) (i : Nat) : Option Response :=
  executions.findSome? fun execution =>
    if execution.position = i then execution.answer? settings else none

theorem answerAt_append (before after : List Execution) (i : Nat) :
    answerAt settings (before ++ after) i =
      (answerAt settings before i).or (answerAt settings after i) :=
  List.findSome?_append

theorem answerAt_eq_none_of_forall_ne {executions : List Execution} {i : Nat}
    (h : ∀ execution ∈ executions, execution.position ≠ i) :
    answerAt settings executions i = none := by
  refine List.findSome?_eq_none_iff.mpr fun execution hmem => ?_
  rw [if_neg (h execution hmem)]

theorem answerAt_later_succ (executions : List Execution) (i : Nat) :
    answerAt settings (executions.map Execution.later) (i + 1) =
      answerAt settings executions i := by
  simp [answerAt, List.findSome?_map, Function.comp_def]

theorem answerAt_later_zero (executions : List Execution) :
    answerAt settings (executions.map Execution.later) 0 = none := by
  refine answerAt_eq_none_of_forall_ne fun execution hmem => ?_
  obtain ⟨_, _, rfl⟩ := List.mem_map.mp hmem
  exact Nat.succ_ne_zero _

/-! ## Progress -/

variable (settings registry) in
/-- What executions make of actions, in one run or in many. -/
structure Progress (actions : List Action) (executions : List Execution)
    (actions' : List Action) : Prop where
  requests : actions'.map Action.request = actions.map Action.request
  kept : ∀ i response, responseAt actions i = some response →
    responseAt actions' i = some response
  pending : ∀ execution ∈ executions, ∃ action, actions[execution.position]? = some action ∧
    action.response = none ∧ registry.find? action.request.kind = some execution.handler
  once : executions.Pairwise fun earlier later =>
    earlier.position = later.position → earlier.answer? settings = none
  answered : ∀ i action handler, actions[i]? = some action → action.response = none →
    registry.find? action.request.kind = some handler →
    responseAt actions' i = answerAt settings executions i
  unanswerable : ∀ i action response, actions[i]? = some action → action.response = none →
    registry.find? action.request.kind = none → responseAt actions' i = some response →
    ∃ identification, response = unanswerable settings identification

namespace Progress

variable {actions actions' rest rest' : List Action} {action action' : Action}
  {executions executions' : List Execution}

theorem refl (actions : List Action) : Progress settings registry actions [] actions where
  requests := rfl
  kept _ _ h := h
  pending _ h := absurd h List.not_mem_nil
  once := .nil
  answered i action _ haction hresponse _ := by
    rw [responseAt, haction]
    exact hresponse
  unanswerable i action response haction hresponse _ h := by
    rw [responseAt, haction] at h
    exact absurd (hresponse.symm.trans h) (Option.some_ne_none response).symm

theorem getElem?_of_getElem? (h : Progress settings registry actions executions actions') {i : Nat}
    (haction : actions[i]? = some action) :
    ∃ action', actions'[i]? = some action' ∧ action'.request = action.request := by
  have hrequest : (actions'.map Action.request)[i]? = (actions.map Action.request)[i]? := by
    rw [h.requests]
  rw [List.getElem?_map, List.getElem?_map, haction] at hrequest
  exact Option.map_eq_some_iff.mp hrequest

theorem getElem?_before (h : Progress settings registry actions executions actions') {i : Nat}
    (haction : actions'[i]? = some action') (hresponse : action'.response = none) :
    ∃ action, actions[i]? = some action ∧ action.response = none ∧
      action.request = action'.request := by
  have hrequest : (actions.map Action.request)[i]? = (actions'.map Action.request)[i]? := by
    rw [h.requests]
  rw [List.getElem?_map, List.getElem?_map, haction] at hrequest
  obtain ⟨action, hbefore, hrequest⟩ := Option.map_eq_some_iff.mp hrequest
  refine ⟨action, hbefore, ?_, hrequest⟩
  cases hbeforeResponse : action.response with
  | none => rfl
  | some response =>
      have hkept := h.kept i response (by rw [responseAt, hbefore]; exact hbeforeResponse)
      rw [responseAt, haction] at hkept
      exact absurd (hresponse.symm.trans hkept) (Option.some_ne_none response).symm

/-- Progress of later calls goes on from the progress of earlier ones. -/
theorem trans {actions'' : List Action} (h : Progress settings registry actions executions actions')
    (h' : Progress settings registry actions' executions' actions'') :
    Progress settings registry actions (executions ++ executions') actions'' where
  requests := h'.requests.trans h.requests
  kept i response hresponse := h'.kept i response (h.kept i response hresponse)
  pending := by
    intro execution hmem
    rcases List.mem_append.mp hmem with hmem | hmem
    · exact h.pending execution hmem
    · obtain ⟨action', haction', hresponse', hfind⟩ := h'.pending execution hmem
      obtain ⟨action, haction, hresponse, hrequest⟩ := h.getElem?_before haction' hresponse'
      exact ⟨action, haction, hresponse, hrequest ▸ hfind⟩
  once := by
    refine List.pairwise_append.mpr ⟨h.once, h'.once, ?_⟩
    intro earlier hearlier later hlater hposition
    obtain ⟨action', haction', hresponse', _⟩ := h'.pending later hlater
    obtain ⟨action, haction, hresponse, hfind⟩ := h.pending earlier hearlier
    have hanswer := h.answered _ action _ haction hresponse hfind
    rw [hposition, responseAt, haction', Option.bind_some, hresponse'] at hanswer
    have hnone := List.findSome?_eq_none_iff.mp hanswer.symm earlier hearlier
    rwa [if_pos hposition] at hnone
  answered := by
    intro i action handler haction hresponse hfind
    have hanswer := h.answered i action handler haction hresponse hfind
    rw [answerAt_append, ← hanswer]
    cases hmiddle : responseAt actions' i with
    | some response => exact h'.kept i response hmiddle
    | none =>
        obtain ⟨action', haction', hrequest⟩ := h.getElem?_of_getElem? haction
        rw [responseAt, haction'] at hmiddle
        exact h'.answered i action' handler haction' hmiddle (hrequest ▸ hfind)
  unanswerable := by
    intro i action response haction hresponse hfind hlast
    obtain ⟨action', haction', hrequest⟩ := h.getElem?_of_getElem? haction
    cases hmiddle : responseAt actions' i with
    | some response' =>
        have hkept := h'.kept i response' hmiddle
        obtain rfl : response = response' := Option.some.inj (hlast.symm.trans hkept)
        exact h.unanswerable i action response haction hresponse hfind hmiddle
    | none =>
        rw [responseAt, haction'] at hmiddle
        exact h'.unanswerable i action' response haction' hmiddle (hrequest ▸ hfind) hlast

/-! ### One action before others -/

/-- What becomes of the first action and of the others is what becomes of all. -/
theorem cons (hposition : ∀ execution ∈ executions, execution.position = 0)
    (head : Progress settings registry [action] executions [action'])
    (tail : Progress settings registry rest executions' rest') :
    Progress settings registry (action :: rest) (executions ++ executions'.map Execution.later)
      (action' :: rest') where
  requests := by
    have hrequest := head.requests
    simp only [List.map_cons, List.map_nil, List.cons.injEq, and_true] at hrequest
    rw [List.map_cons, List.map_cons, hrequest, tail.requests]
  kept i response hresponse := by
    cases i with
    | zero => exact head.kept 0 response hresponse
    | succ i => exact tail.kept i response hresponse
  pending := by
    intro execution hmem
    rcases List.mem_append.mp hmem with hmem | hmem
    · obtain ⟨action, haction, hpending⟩ := head.pending execution hmem
      rw [hposition execution hmem] at haction ⊢
      exact ⟨action, haction, hpending⟩
    · obtain ⟨execution, hexecution, rfl⟩ := List.mem_map.mp hmem
      exact tail.pending execution hexecution
  once := by
    refine List.pairwise_append.mpr ⟨head.once, List.pairwise_map.mpr ?_, ?_⟩
    · refine tail.once.imp fun {earlier later} h hposition => ?_
      exact h (Nat.succ.inj hposition)
    · intro earlier hearlier later hlater hsame
      obtain ⟨later, _, rfl⟩ := List.mem_map.mp hlater
      rw [hposition earlier hearlier] at hsame
      exact absurd hsame (Nat.succ_ne_zero _).symm
  answered := by
    intro i first handler hfirst hresponse hfind
    rw [answerAt_append]
    cases i with
    | zero =>
        rw [answerAt_later_zero, Option.or_none]
        exact head.answered 0 first handler hfirst hresponse hfind
    | succ i =>
        have hnone : answerAt settings executions (i + 1) = none := by
          refine answerAt_eq_none_of_forall_ne fun execution hmem => ?_
          rw [hposition execution hmem]
          exact (Nat.succ_ne_zero i).symm
        rw [hnone, Option.none_or, answerAt_later_succ]
        exact tail.answered i first handler hfirst hresponse hfind
  unanswerable i first response hfirst hresponse hfind hanswer := by
    cases i with
    | zero => exact head.unanswerable 0 first response hfirst hresponse hfind hanswer
    | succ i => exact tail.unanswerable i first response hfirst hresponse hfind hanswer

variable (settings) in
/-- An action whose command is carried out has the response that the execution gives. -/
theorem perform (execution : Execution) (hpending : action.response = none)
    (hposition : execution.position = 0)
    (hfind : registry.find? action.request.kind = some execution.handler) :
    Progress settings registry [action] [execution]
      [{ action with response := execution.answer? settings }] where
  requests := rfl
  kept i response hresponse := by
    cases i with
    | zero => exact absurd (hpending.symm.trans hresponse) (Option.some_ne_none response).symm
    | succ i => exact hresponse
  pending := by
    intro e hmem
    obtain rfl := List.mem_singleton.mp hmem
    exact ⟨action, by rw [hposition]; rfl, hpending, hfind⟩
  once := List.pairwise_singleton _ _
  answered := by
    intro i first handler hfirst _ _
    cases i with
    | zero => simp [answerAt, hposition]
    | succ i => cases hfirst
  unanswerable := by
    intro i first response hfirst _ hnone _
    cases i with
    | zero =>
        cases hfirst
        exact absurd (hfind.symm.trans hnone) (Option.some_ne_none _)
    | succ i => cases hfirst

/-- An action without a command has its response at once. -/
theorem refuse (hpending : action.response = none)
    (hfind : registry.find? action.request.kind = none) (identification : String) :
    Progress settings registry [action] []
      [{ action with response := some (Bundle.unanswerable settings identification) }] where
  requests := rfl
  kept i response hresponse := by
    cases i with
    | zero => exact absurd (hpending.symm.trans hresponse) (Option.some_ne_none response).symm
    | succ i => exact hresponse
  pending _ hmem := absurd hmem List.not_mem_nil
  once := .nil
  answered := by
    intro i first handler hfirst _ hsome
    cases i with
    | zero =>
        cases hfirst
        exact absurd (hsome.symm.trans hfind) (Option.some_ne_none handler)
    | succ i => cases hfirst
  unanswerable := by
    intro i first response hfirst _ _ hresponse
    cases i with
    | zero => exact ⟨identification, (Option.some.inj hresponse).symm⟩
    | succ i => cases hfirst

end Progress

/-! ## Runs -/

variable (settings registry) in
/-- What one run makes of actions: it makes progress in their order, and ends with all of them
answered or with the loss of the connection in the last execution. -/
structure Carried (actions : List Action) (executions : List Execution) (actions' : List Action)
    (result : Outcome Unit) : Prop
    extends Progress settings registry actions executions actions' where
  ordered : executions.Pairwise fun earlier later => earlier.position < later.position
  completed : result = .ok () → ∀ action ∈ actions', action.isCompleted = true
  lost : ∀ failure, result = .error failure → failure.isConnectionLoss = true ∧
    ∃ before last, executions = before ++ [last] ∧ last.outcome = .error failure ∧
      (∀ action ∈ actions'.take last.position, action.isCompleted = true) ∧
      actions'.drop last.position = actions.drop last.position

namespace Carried

variable {actions actions' rest rest' : List Action} {action action' : Action}
  {executions executions' : List Execution} {result : Outcome Unit}

theorem nil : Carried settings registry [] [] [] (.ok ()) where
  toProgress := .refl []
  ordered := .nil
  completed _ _ h := absurd h List.not_mem_nil
  lost _ h := by cases h

/-- A run goes on after an action that has its response. -/
theorem cons (hposition : ∀ execution ∈ executions, execution.position = 0)
    (hordered : executions.Pairwise fun earlier later => earlier.position < later.position)
    (hcompleted : action'.isCompleted = true)
    (head : Progress settings registry [action] executions [action'])
    (tail : Carried settings registry rest executions' rest' result) :
    Carried settings registry (action :: rest) (executions ++ executions'.map Execution.later)
      (action' :: rest') result where
  toProgress := .cons hposition head tail.toProgress
  ordered := by
    refine List.pairwise_append.mpr ⟨hordered, List.pairwise_map.mpr ?_, ?_⟩
    · exact tail.ordered.imp fun h => Nat.succ_lt_succ h
    · intro earlier hearlier later hlater
      obtain ⟨later, _, rfl⟩ := List.mem_map.mp hlater
      rw [hposition earlier hearlier]
      exact Nat.succ_pos _
  completed hok := by
    intro a ha
    rcases List.mem_cons.mp ha with rfl | ha
    · exact hcompleted
    · exact tail.completed hok a ha
  lost := by
    intro failure herror
    obtain ⟨hloss, before, last, rfl, houtcome, hbefore, hafter⟩ := tail.lost failure herror
    refine ⟨hloss, executions ++ before.map Execution.later, last.later, ?_, houtcome, ?_, hafter⟩
    · rw [List.map_append, List.map_singleton, List.append_assoc]
    · intro a ha
      rcases List.mem_cons.mp ha with rfl | ha
      · exact hcompleted
      · exact hbefore a ha

/-- A run ends with the execution that loses the connection. -/
theorem stop {execution : Execution} {failure : Failure} (hpending : action.response = none)
    (hposition : execution.position = 0)
    (hfind : registry.find? action.request.kind = some execution.handler)
    (houtcome : execution.outcome = .error failure) (hloss : failure.isConnectionLoss = true) :
    Carried settings registry (action :: rest) [execution] (action :: rest) (.error failure) where
  toProgress := by
    have hanswer : execution.answer? settings = none := by
      rw [Execution.answer?, houtcome]
      simp [Handler.answer, hloss, Except.toOption]
    have hfirst : ∀ e ∈ [execution], e.position = 0 := by simpa using hposition
    have head : Progress settings registry [action] [execution] [action] := by
      have hperform := Progress.perform settings execution hpending hposition hfind
      rwa [hanswer, ← hpending] at hperform
    exact Progress.cons hfirst head (.refl rest)
  ordered := List.pairwise_singleton _ _
  completed h := by cases h
  lost := by
    intro failure' herror
    cases herror
    refine ⟨hloss, [], execution, rfl, houtcome, ?_, rfl⟩
    rw [hposition]
    exact fun _ h => absurd h List.not_mem_nil

end Carried

section

variable {rules : Rules Answer σ} {action : Action} {rest actions actions' : List Action}
  {result : Outcome Unit} {device d : Device} {s t : σ}

/-- A request is answered without an execution or by one, or its execution loses the connection. -/
theorem exists_executions_of_respond {answer : Outcome Response}
    (hpending : action.response = none)
    (h : Dialogue.Runs rules (respond registry settings action.request device) s (answer, d) t) :
    ∃ executions, Performs rules registry (action :: rest) executions device s d t ∧
      (∀ execution ∈ executions, execution.position = 0) ∧
      executions.Pairwise (fun earlier later => earlier.position < later.position) ∧
      (∀ response, answer = .ok response → Progress settings registry [action] executions
        [{ action with response := some response }]) ∧
      ∀ failure, answer = .error failure → Carried settings registry (action :: rest) executions
        (action :: rest) (.error failure) := by
  cases hfind : registry.find? action.request.kind with
  | none =>
      obtain ⟨hanswer, rfl⟩ := (runs_respond_of_none hfind).mp h
      cases hanswer
      refine ⟨[], .nil, by simp, .nil, ?_, fun failure h => by cases h⟩
      rintro _ ⟨⟩
      exact .refuse hpending hfind _
  | some handler =>
      obtain ⟨outcome, _, hruns, hanswer⟩ := (runs_respond_of_some hfind).mp h
      cases hanswer
      let execution : Execution := ⟨0, handler, outcome, d⟩
      have hperforms : Performs rules registry (action :: rest) [execution] device s d t :=
        .cons rfl hfind hruns .nil
      refine ⟨[execution], hperforms, by simp [execution], List.pairwise_singleton _ _, ?_, ?_⟩
      · intro response hanswer
        have hresponse : execution.answer? settings = some response := by
          rw [Execution.answer?, hanswer]
          rfl
        rw [← hresponse]
        exact .perform settings execution hpending rfl hfind
      · intro failure hanswer
        obtain ⟨houtcome, hloss⟩ := Handler.isConnectionLoss_of_answer hanswer
        exact .stop hpending rfl hfind houtcome hloss

/-- What a run makes of its actions is what executions make of them, one after the other. -/
theorem exists_carried_of_runActions
    (h : Dialogue.Runs rules ((runActions registry settings actions).run device) s
      ((actions', result), d) t) :
    ∃ executions, Performs rules registry actions executions device s d t ∧
      Carried settings registry actions executions actions' result := by
  induction actions generalizing actions' device s with
  | nil =>
      obtain ⟨⟨rfl, rfl⟩, rfl, rfl⟩ := runs_runActions_nil.mp h
      exact ⟨[], .nil, .nil⟩
  | cons action rest ih =>
      cases hcompleted : action.isCompleted with
      | true =>
          obtain ⟨rest', rfl, hrest⟩ := (runs_runActions_of_completed hcompleted).mp h
          obtain ⟨executions, hperforms, hcarried⟩ := ih hrest
          have hnone : ∀ execution ∈ ([] : List Execution), execution.position = 0 := by simp
          exact ⟨executions.map .later, hperforms.later action,
            .cons hnone .nil hcompleted (.refl [action]) hcarried⟩
      | false =>
          have hpending : action.response = none := by
            simpa [Action.isCompleted] using hcompleted
          obtain ⟨answer, d₁, s₁, hrespond, hrest⟩ :=
            (runs_runActions_of_pending hcompleted).mp h
          -- Nothing is carried out at this action after its answer: the rest is one place later.
          obtain ⟨executions, hperforms, hposition, hordered, hanswered, hlost⟩ :=
            exists_executions_of_respond hpending hrespond
          cases answer with
          | error failure =>
              obtain ⟨⟨rfl, rfl⟩, rfl, rfl⟩ := hrest
              exact ⟨executions, hperforms, hlost failure rfl⟩
          | ok response =>
              obtain ⟨rest', rfl, hrest⟩ := hrest
              obtain ⟨later, hlater, hcarried⟩ := ih hrest
              exact ⟨executions ++ later.map .later, hperforms.append (hlater.later action),
                .cons hposition hordered rfl (hanswered response rfl) hcarried⟩

end

/-! ## Calls -/

open Exchange in
/-- How a call for a bundle may go: it fails before the session is open and leaves the bundle as it
is, or carries out its executions over the session. -/
inductive Handles (rules : Rules Exchange.Answer σ) (registry : Registry) (settings : Settings)
    (identification : String) (bundle : Bundle) (s : σ) :
    List Execution → Bundle → Outcome Unit → σ → Prop where
  | unloaded {s₁ failure s₂ t} :
      rules (.acquire identification) s () s₁ →
      rules (.load identification) s₁ (.error failure) s₂ →
      rules (.release identification) s₂ () t →
      Handles rules registry settings identification bundle s [] bundle (.error failure) t
  | unopened {s₁ device s₂ failure d s₃ t} :
      rules (.acquire identification) s () s₁ →
      rules (.load identification) s₁ (.ok device) s₂ →
      Dialogue.Runs rules (openSession.run.run device) s₂ (.error failure, d) s₃ →
      rules (.release identification) s₃ () t →
      Handles rules registry settings identification bundle s [] bundle (.error failure) t
  | carried {s₁ device s₂ session d s₃ executions bundle' result d' s₄ closed s₅ t} :
      rules (.acquire identification) s () s₁ →
      rules (.load identification) s₁ (.ok device) s₂ →
      Dialogue.Runs rules (openSession.run.run device) s₂ (.ok session, d) s₃ →
      Performs (sessionRules rules) registry bundle.actions executions d s₃ d' s₄ →
      Carried settings registry bundle.actions executions bundle'.actions result →
      rules .close s₄ closed s₅ →
      rules (.release identification) s₅ () t →
      Handles rules registry settings identification bundle s executions bundle' result t

/-- Calls for one bundle, one after the other, with their executions and how each of them ended.
What happens in the world between two calls is left open. -/
inductive Calls (rules : Rules Exchange.Answer σ) (registry : Registry) (settings : Settings)
    (identification : String) : Bundle → List Execution → List (Outcome Unit) → Bundle → Prop where
  | none {bundle} : Calls rules registry settings identification bundle [] [] bundle
  | call {bundle s executions bundle' result t executions' results bundle''} :
      Dialogue.Runs rules (Exchange.handleBundle registry settings identification bundle) s
        (bundle', result) t →
      Handles rules registry settings identification bundle s executions bundle' result t →
      Calls rules registry settings identification bundle' executions' results bundle'' →
      Calls rules registry settings identification bundle (executions ++ executions')
        (result :: results) bundle''

section

variable {rules : Rules Exchange.Answer σ} {identification : String} {bundle bundle' : Bundle}
  {executions : List Execution} {result : Outcome Unit} {s t : σ}

theorem exists_handles_of_handleBundle
    (h : Dialogue.Runs rules (Exchange.handleBundle registry settings identification bundle) s
      (bundle', result) t) :
    ∃ executions,
      Handles rules registry settings identification bundle s executions bundle' result t := by
  cases Exchange.runs_withSession_iff.mp h with
  | unloaded hacquire hload hrelease => exact ⟨[], .unloaded hacquire hload hrelease⟩
  | unopened hacquire hload hopen hrelease => exact ⟨[], .unopened hacquire hload hopen hrelease⟩
  | carried hacquire hload hopen hbody hclose hrelease =>
      obtain ⟨executions, hperforms, hcarried⟩ :=
        exists_carried_of_runActions (runs_run_iff.mp hbody)
      exact ⟨executions, .carried hacquire hload hopen hperforms hcarried hclose hrelease⟩

theorem Handles.progress
    (h : Handles rules registry settings identification bundle s executions bundle' result t) :
    Progress settings registry bundle.actions executions bundle'.actions ∧
      (result = .ok () → ∀ action ∈ bundle'.actions, action.isCompleted = true) := by
  cases h with
  | unloaded => exact ⟨.refl _, fun h => by cases h⟩
  | unopened => exact ⟨.refl _, fun h => by cases h⟩
  | carried _ _ _ _ hcarried => exact ⟨hcarried.toProgress, hcarried.completed⟩

theorem Progress.isCompleted {actions actions' : List Action}
    (h : Progress settings registry actions executions actions')
    (hactions : ∀ action ∈ actions, action.isCompleted = true) :
    ∀ action ∈ actions', action.isCompleted = true := by
  intro action' hmem
  obtain ⟨i, haction'⟩ := List.mem_iff_getElem?.mp hmem
  cases hresponse : action'.response with
  | some response => rw [Action.isCompleted, hresponse, Option.isSome_some]
  | none =>
      obtain ⟨action, haction, hnone, _⟩ := h.getElem?_before haction' hresponse
      have hcompleted := hactions action (List.mem_of_getElem? haction)
      rw [Action.isCompleted, hnone] at hcompleted
      cases hcompleted

theorem Calls.progress {results : List (Outcome Unit)}
    (h : Calls rules registry settings identification bundle executions results bundle') :
    Progress settings registry bundle.actions executions bundle'.actions ∧
      (.ok () ∈ results → ∀ action ∈ bundle'.actions, action.isCompleted = true) := by
  induction h with
  | none => exact ⟨.refl _, fun h => absurd h List.not_mem_nil⟩
  | call _ hhandles _ ih =>
      obtain ⟨hprogress, hok⟩ := hhandles.progress
      refine ⟨hprogress.trans ih.1, fun hmem => ?_⟩
      -- Later calls keep the answers of a call that succeeded.
      rcases List.mem_cons.mp hmem with hresult | hmem
      · exact ih.1.isCompleted (hok hresult.symm)
      · exact ih.2 hmem

end

/-- One run answers actions in their order up to the loss of the connection, and any number of calls
answer every action once, by the first of its executions that did not lose the connection. -/
theorem calls_answer_once (registry : Registry) (settings : Settings) (identification : String) :
    (∀ {σ : Type} (rules : Rules Answer σ) (bundle bundle' : Bundle) (result : Outcome Unit)
      (device d : Device) (s t : σ),
      Dialogue.Runs rules ((bundle.run registry settings).run device) s ((bundle', result), d) t →
      ∃ executions, Performs rules registry bundle.actions executions device s d t ∧
        Carried settings registry bundle.actions executions bundle'.actions result) ∧
    ∀ {σ : Type} (rules : Rules Exchange.Answer σ),
      (∀ (bundle bundle' : Bundle) (result : Outcome Unit) (s t : σ),
        Dialogue.Runs rules (Exchange.handleBundle registry settings identification bundle) s
          (bundle', result) t →
        ∃ executions,
          Handles rules registry settings identification bundle s executions bundle' result t) ∧
      ∀ (bundle bundle' : Bundle) (executions : List Execution) (results : List (Outcome Unit)),
        Calls rules registry settings identification bundle executions results bundle' →
        Progress settings registry bundle.actions executions bundle'.actions ∧
          (.ok () ∈ results → ∀ action ∈ bundle'.actions, action.isCompleted = true) := by
  refine ⟨fun rules bundle bundle' result device d s t h => ?_, fun rules => ⟨?_, ?_⟩⟩
  · exact exists_carried_of_runActions (runs_run_iff.mp h)
  · intro bundle bundle' result s t h
    exact exists_handles_of_handleBundle h
  · intro bundle bundle' executions results h
    exact h.progress

/-- A command that reads an attribute and answers with how that went. -/
def reader : Handler where
  name := "reader"
  kind? := some .getFirmwareVersions
  handle _ := do
    let result ← Operation.readAttribute ⟨1, ⟨1, 0, 0, 2, 0, 255⟩, 2, none⟩
    return .ok result.result.label

def readerRegistry : Registry :=
  ⟨[(.getFirmwareVersions, reader)]⟩

def readerBundle : Bundle :=
  .ofRequests [.getFirmwareVersions, .getAdministrativeStatus, .getFirmwareVersions]

/-- A world in which the connection is lost after a number of requests. -/
def readerWorld (lostAfter : Option Nat) : Rehearsal.World where
  clock := ⟨0, 0⟩
  devices := [("meter", {
    identification := "meter"
    keys := [⟨.authentication, "", some ⟨0, 0⟩, none⟩, ⟨.encryption, "", some ⟨0, 0⟩, none⟩] })]
  meter := { lostAfter := lostAfter }
  storage := ⟨id, id⟩

theorem calls_answer_once_of_lost_once :
    (∃ (executions : List Execution) (bundle' : Bundle) (d : Device) (t : Rehearsal.World),
      Performs (fun question s answer t => Rehearsal.World.answer question s = (answer, t))
        readerRegistry readerBundle.actions executions { identification := "meter" }
        (readerWorld (some 1)) d t ∧
      Carried {} readerRegistry readerBundle.actions executions bundle'.actions
        (.error .timeout)) ∧
    ∃ (executions : List Execution) (bundle' : Bundle),
      Calls (fun question s answer t => Rehearsal.World.answerExchange question s = (answer, t))
        readerRegistry {} "meter" readerBundle executions
        [.error .timeout, .ok ()] bundle' ∧
      Progress {} readerRegistry readerBundle.actions executions bundle'.actions ∧
      ∀ action ∈ bundle'.actions, action.isCompleted = true := by
  obtain ⟨hrun, hcalls⟩ := calls_answer_once readerRegistry {} "meter"
  constructor
  · obtain ⟨bundle', d, t, hruns⟩ : ∃ bundle' d t,
        ((readerBundle.run readerRegistry {}).run { identification := "meter" }).run
          Rehearsal.World.answer (readerWorld (some 1)) = (((bundle', .error .timeout), d), t) :=
      ⟨_, _, _, rfl⟩
    obtain ⟨executions, hperforms, hcarried⟩ :=
      hrun _ _ _ _ _ _ _ _ ((Dialogue.runs_iff_run_eq _).mpr hruns)
    exact ⟨executions, bundle', d, t, hperforms, hcarried⟩
  · obtain ⟨bundle, t, bundle', t', hlost, hresumed⟩ : ∃ bundle t bundle' t',
        (Exchange.handleBundle readerRegistry {} "meter" readerBundle).run
          Rehearsal.World.answerExchange (readerWorld (some 1)) = ((bundle, .error .timeout), t) ∧
        (Exchange.handleBundle readerRegistry {} "meter" bundle).run
          Rehearsal.World.answerExchange (readerWorld none) = ((bundle', .ok ()), t') :=
      ⟨_, _, _, _, rfl, rfl⟩
    obtain ⟨hhandles, hprogress⟩ := hcalls fun question s answer t =>
      Rehearsal.World.answerExchange question s = (answer, t)
    have hlost := (Dialogue.runs_iff_run_eq _).mpr hlost
    have hresumed := (Dialogue.runs_iff_run_eq _).mpr hresumed
    obtain ⟨executions, hfirst⟩ := hhandles _ _ _ _ _ hlost
    obtain ⟨executions', hsecond⟩ := hhandles _ _ _ _ _ hresumed
    have h := Calls.call hlost hfirst (.call hresumed hsecond .none)
    obtain ⟨hbundle, hcompleted⟩ := hprogress _ _ _ _ h
    exact ⟨_, bundle', h, hbundle, hcompleted (by simp)⟩

end HeadEnd.Bundle
