import HeadEnd.Proofs.Command.Plain
import HeadEnd.Proofs.Session.History

/-! # What becomes of failures

An operation that passes on every failure of the world ends with the first one, and fails as if the
connection were lost only if the world did.
-/

namespace HeadEnd

def failureOf? {α : Type} : Outcome α → Option Failure
  | .ok _ => none
  | .error failure => some failure

section Outcomes

variable {α : Type} {outcome : Outcome α}

theorem lossless_of_failureOf?_eq_none (h : failureOf? outcome = none) : Lossless outcome := by
  cases outcome with
  | ok a => exact lossless_ok a
  | error failure => cases h

theorem eq_error_of_failureOf?_eq_some {failure : Failure} (h : failureOf? outcome = some failure) :
    outcome = .error failure := by
  cases outcome with
  | ok a => cases h
  | error failure' =>
      cases h
      rfl

end Outcomes

/-- The failure that the meter, the store or the service for stored keys answered with. -/
def Turn.failure? : Turn Answer → Option Failure
  | ⟨.clock, _⟩ => none
  | ⟨.read _, outcome⟩ => failureOf? outcome
  | ⟨.readBatch _, outcome⟩ => failureOf? outcome
  | ⟨.write _, outcome⟩ => failureOf? outcome
  | ⟨.call _, outcome⟩ => failureOf? outcome
  | ⟨.adoptKey _ _, outcome⟩ => failureOf? outcome
  | ⟨.describe _, _⟩ => none
  | ⟨.save _, outcome⟩ => failureOf? outcome
  | ⟨.decrypt _, outcome⟩ => failureOf? outcome

/-- The turn lost the connection, or brought another failure that stands for its loss. -/
def Turn.IsLoss (turn : Turn Answer) : Prop :=
  ∃ failure, turn.failure? = some failure ∧ failure.isConnectionLoss = true

variable {α β : Type} {d : Device}

/-! ## Dialogues that pass on failures -/

/-- The dialogue is over as soon as a question fails, with that failure; of itself it does not fail
as if the connection were lost. -/
inductive PassesOn : Session (Outcome α × Device) → Prop where
  | done {outcome d} : Lossless outcome → PassesOn (.done (outcome, d))
  | ask {question next} :
      (∀ answer, Turn.failure? ⟨question, answer⟩ = none → PassesOn (next answer)) →
      (∀ answer failure, Turn.failure? ⟨question, answer⟩ = some failure →
        ∃ d, next answer = .done (.error failure, d)) →
      PassesOn (.ask question next)

/-- How an operation that passes on failures ends: a failure of the world is the last thing that
happens, and what looks like the loss of the connection is such a failure. -/
structure EndsWithFailure (history : List (Turn Answer)) (r : Outcome α) : Prop where
  last : ∀ past turn rest failure, history = past ++ turn :: rest →
    turn.failure? = some failure → rest = [] ∧ r = .error failure
  cause : ∀ failure, r = .error failure → failure.isConnectionLoss = true →
    ∃ past turn, history = past ++ [turn] ∧ turn.failure? = some failure

namespace EndsWithFailure

variable {history : List (Turn Answer)} {r : Outcome α} {turn : Turn Answer} {failure : Failure}

theorem nil (h : Lossless r) : EndsWithFailure [] r where
  last past turn rest failure heq := by simp at heq
  cause failure hr hloss := by
    rw [h failure hr] at hloss
    cases hloss

theorem single (h : turn.failure? = some failure) :
    EndsWithFailure [turn] (.error failure : Outcome α) where
  last past turn' rest failure' heq h' := by
    obtain ⟨rfl, heq⟩ | ⟨_, _, heq⟩ := List.append_eq_cons_iff.mp heq.symm
    · cases heq
      rw [h] at h'
      cases h'
      exact ⟨rfl, rfl⟩
    · simp at heq
  cause failure' hr _ := by
    cases hr
    exact ⟨[], turn, rfl, h⟩

theorem cons (hturn : turn.failure? = none) (h : EndsWithFailure history r) :
    EndsWithFailure (turn :: history) r where
  last past turn' rest failure' heq h' := by
    obtain ⟨rfl, heq⟩ | ⟨past', rfl, heq⟩ := List.append_eq_cons_iff.mp heq.symm
    · cases heq
      rw [hturn] at h'
      cases h'
    · exact h.last past' turn' rest failure' (List.cons.inj heq).2 h'
  cause failure' hr hloss := by
    obtain ⟨past, last, rfl, hlast⟩ := h.cause failure' hr hloss
    exact ⟨turn :: past, last, rfl, hlast⟩

/-- Without a failure that stands for the loss of the connection there was none. -/
theorem not_isLoss (h : EndsWithFailure history r) (hr : Lossless r) :
    ∀ turn ∈ history, ¬ turn.IsLoss := by
  rintro turn hturn ⟨failure, hfailure, hloss⟩
  obtain ⟨past, rest, rfl⟩ := List.append_of_mem hturn
  obtain ⟨_, rfl⟩ := h.last past turn rest failure rfl hfailure
  rw [hr failure rfl] at hloss
  cases hloss

/-- The failure that stands for the loss of the connection is that of the last turn, and of no turn
before it. -/
theorem exists_loss (h : EndsWithFailure history (.error failure : Outcome α))
    (hloss : failure.isConnectionLoss = true) :
    ∃ past turn, history = past ++ [turn] ∧ turn.failure? = some failure ∧
      ∀ earlier ∈ past, earlier.failure? = none := by
  obtain ⟨past, turn, rfl, hturn⟩ := h.cause failure rfl hloss
  refine ⟨past, turn, rfl, hturn, fun earlier hearlier => ?_⟩
  obtain ⟨before, after, rfl⟩ := List.append_of_mem hearlier
  cases hfailure : earlier.failure? with
  | none => rfl
  | some failure' =>
      have hlast := (h.last before earlier (after ++ [turn]) failure' (by simp) hfailure).1
      simp at hlast

end EndsWithFailure

/-- What is seen of a dialogue that passes on failures. -/
theorem PassesOn.endsWithFailure {fair : Turn Answer → Prop} {session : Session (Outcome α × Device)}
    (h : PassesOn session) {before history : List (Turn Answer)} {r : Outcome α}
    (hruns : Dialogue.Runs (recording fair) session before (r, d) history) :
    ∃ own, history = before ++ own ∧ EndsWithFailure own r := by
  induction h generalizing before with
  | done hlossless =>
      obtain ⟨hr, rfl⟩ := Dialogue.runs_done_iff.mp hruns
      cases hr
      exact ⟨[], by simp, .nil hlossless⟩
  | @ask question next hnext hfailing ih =>
      obtain ⟨answer, middle, ⟨_, rfl⟩, hruns⟩ := Dialogue.runs_ask_iff.mp hruns
      cases hfailure : Turn.failure? ⟨question, answer⟩ with
      | none =>
          obtain ⟨own, rfl, hends⟩ := ih answer hfailure hruns
          exact ⟨⟨question, answer⟩ :: own, by simp, hends.cons hfailure⟩
      | some failure =>
          obtain ⟨d', hdone⟩ := hfailing answer failure hfailure
          rw [hdone] at hruns
          obtain ⟨hr, rfl⟩ := Dialogue.runs_done_iff.mp hruns
          cases hr
          exact ⟨[⟨question, answer⟩], rfl, .single hfailure⟩

/-- A dialogue that goes on after a success only. -/
theorem PassesOn.bind {session : Session (Outcome α × Device)} (h : PassesOn session)
    {next : Outcome α × Device → Session (Outcome β × Device)}
    (hok : ∀ a d, PassesOn (next (.ok a, d)))
    (herror : ∀ failure d, next (.error failure, d) = .done (.error failure, d)) :
    PassesOn (session >>= next) := by
  induction h with
  | @done outcome d hlossless =>
      cases outcome with
      | ok a => exact hok a d
      | error failure =>
          change PassesOn (next (.error failure, d))
          rw [herror]
          exact .done (lossless_error (hlossless failure rfl))
  | ask _ hfailing ih =>
      refine .ask ih fun answer failure hfailure => ?_
      obtain ⟨d, hdone⟩ := hfailing answer failure hfailure
      refine ⟨d, ?_⟩
      rw [hdone]
      exact herror failure d

/-! ## Operations that pass on failures -/

namespace Operation

/-- Whatever the record is that it works on, the operation passes on failures. -/
def PassesOnFailures (operation : Operation α) : Prop :=
  ∀ device, PassesOn (operation.run.run device)

theorem passesOn_pure (a : α) : (pure a : Operation α).PassesOnFailures :=
  fun _ => .done (lossless_ok a)

theorem passesOn_throw {failure : Failure} (h : failure.isConnectionLoss = false) :
    (throw failure : Operation α).PassesOnFailures :=
  fun _ => .done (lossless_error h)

theorem passesOn_lift {outcome : Outcome α} (h : Lossless outcome) :
    (liftM outcome : Operation α).PassesOnFailures :=
  fun _ => .done h

theorem passesOn_get : (get : Operation Device).PassesOnFailures :=
  fun device => .done (lossless_ok device)

theorem passesOn_set (device : Device) : (set device : Operation PUnit).PassesOnFailures :=
  fun _ => .done (lossless_ok PUnit.unit)

theorem passesOn_modify (f : Device → Device) : (modify f : Operation PUnit).PassesOnFailures :=
  fun _ => .done (lossless_ok PUnit.unit)

theorem PassesOnFailures.bind {x : Operation α} {f : α → Operation β} (hx : x.PassesOnFailures)
    (hf : ∀ a, (f a).PassesOnFailures) : (x >>= f).PassesOnFailures :=
  fun device => (hx device).bind hf fun _ _ => rfl

theorem passesOn_mapM {f : α → Operation β} (hf : ∀ a, (f a).PassesOnFailures) (xs : List α) :
    (xs.mapM f).PassesOnFailures := by
  induction xs with
  | nil => exact passesOn_pure []
  | cons a xs ih =>
      rw [List.mapM_cons]
      exact (hf a).bind fun b => ih.bind fun bs => passesOn_pure (b :: bs)

/-! ### Questions -/

theorem passesOn_now : now.PassesOnFailures :=
  fun _ => .ask (fun answer _ => .done (lossless_ok answer)) fun _ _ h => by cases h

theorem passesOn_describe (text : String) : (describe text).PassesOnFailures :=
  fun _ => .ask (fun answer _ => .done (lossless_ok answer)) fun _ _ h => by cases h

/-- A question that may fail, which the operation fails with. -/
theorem passesOn_of_run (question : Question) (outcome : Answer question → Outcome α)
    {operation : Operation α}
    (houtcome : ∀ answer, Turn.failure? ⟨question, answer⟩ = failureOf? (outcome answer))
    (hrun : ∀ device, operation.run.run device =
      .ask question fun answer => .done (outcome answer, device)) :
    operation.PassesOnFailures := by
  intro device
  rw [hrun]
  refine .ask (fun answer hnone => .done ?_) fun answer failure hsome => ⟨device, ?_⟩
  · exact lossless_of_failureOf?_eq_none (houtcome answer ▸ hnone)
  · have herror : outcome answer = .error failure :=
      eq_error_of_failureOf?_eq_some (houtcome answer ▸ hsome)
    rw [herror]

theorem passesOn_readAttribute (address : AttributeAddress) :
    (readAttribute address).PassesOnFailures :=
  passesOn_of_run (.read address) (fun answer => answer) (fun _ => rfl) fun _ => rfl

theorem passesOn_readBatch (addresses : List AttributeAddress) :
    (readBatch addresses).PassesOnFailures :=
  passesOn_of_run (.readBatch addresses) (fun answer => answer) (fun _ => rfl) fun _ => rfl

theorem passesOn_writeAttribute (address : AttributeAddress) (value : Value) :
    (writeAttribute address value).PassesOnFailures :=
  passesOn_of_run (.write ⟨address, value⟩) (fun answer => answer) (fun _ => rfl) fun _ => rfl

theorem passesOn_callMethod (method : MethodCall) : (callMethod method).PassesOnFailures :=
  passesOn_of_run (.call method) (fun answer => answer) (fun _ => rfl) fun _ => rfl

theorem passesOn_adoptKey (kind : KeyKind) (key : List UInt8) :
    (adoptKey kind key).PassesOnFailures :=
  passesOn_of_run (.adoptKey kind key) (fun answer => answer) (fun _ => rfl) fun _ => rfl

theorem passesOn_decrypt (data : List UInt8) : (decrypt data).PassesOnFailures :=
  passesOn_of_run (.decrypt data) (fun answer => answer) (fun _ => rfl) fun _ => rfl

theorem passesOn_saveDevice : saveDevice.PassesOnFailures := by
  intro device
  refine .ask (fun answer hnone => ?_) fun answer failure hsome => ⟨device, ?_⟩
  · cases answer with
    | ok stored => exact .done (lossless_ok PUnit.unit)
    | error failure => cases hnone
  · cases answer with
    | ok stored => cases hsome
    | error failure =>
        cases hsome
        rfl

theorem passesOn_readAll (addresses : List AttributeAddress) :
    (readAll addresses).PassesOnFailures := by
  have hcount : ∀ results : List GetResult, PassesOnFailures (do
      if h : results.length = addresses.length then return ⟨results, h⟩
      else throw (.protocol (.resultCount addresses.length results.length)) :
        Operation { results : List GetResult // results.length = addresses.length }) := by
    intro results
    split
    · exact passesOn_pure _
    · exact passesOn_throw rfl
  refine passesOn_get.bind fun device => ?_
  dsimp only
  split
  · exact (passesOn_readBatch addresses).bind hcount
  · exact (passesOn_mapM passesOn_readAttribute addresses).bind hcount

theorem IsPlain.passesOnFailures {operation : Operation α} (h : operation.IsPlain) :
    operation.PassesOnFailures := by
  induction h with
  | pure a => exact passesOn_pure a
  | throw hfailure => exact passesOn_throw hfailure
  | lift hlossless => exact passesOn_lift hlossless
  | now => exact passesOn_now
  | describe text => exact passesOn_describe text
  | readAttribute address => exact passesOn_readAttribute address
  | readAll addresses => exact passesOn_readAll addresses
  | writeAttribute address value => exact passesOn_writeAttribute address value
  | get _ _ ih => exact passesOn_get.bind ih
  | bind _ _ ihx ihf => exact ihx.bind ihf

end Operation

end HeadEnd
