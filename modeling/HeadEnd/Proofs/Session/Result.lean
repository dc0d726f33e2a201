import HeadEnd.Session.Reading

/-! # Results of operations

How an operation ends in a world that answers every question in one way, step by step.
-/

namespace HeadEnd.Operation

variable {α β : Type}

/-- How the operation ends, and the device record that it leaves, if every question is answered as
`answers` says. -/
def ending (answers : (question : Question) → Answer question) (op : Operation α)
    (device : Device) : Outcome α × Device :=
  ((op.run.run device).run (fun question (_ : Unit) => (answers question, ())) ()).1

/-- How the operation ends if every question is answered as `answers` says. -/
def result (answers : (question : Question) → Answer question) (op : Operation α)
    (device : Device) : Outcome α :=
  (op.ending answers device).1

variable {answers : (question : Question) → Answer question} {device : Device}

/-! ## Steps -/

@[simp] theorem ending_lift (outcome : Outcome α) :
    (liftM outcome : Operation α).ending answers device = (outcome, device) := rfl

@[simp] theorem ending_get : (get : Operation Device).ending answers device = (.ok device, device) :=
  rfl

@[simp] theorem ending_describe (text : String) :
    (describe text).ending answers device = (.ok (), device) := rfl

@[simp] theorem ending_readAttribute (address : AttributeAddress) :
    (readAttribute address).ending answers device = (answers (.read address), device) := rfl

@[simp] theorem ending_readBatch (addresses : List AttributeAddress) :
    (readBatch addresses).ending answers device = (answers (.readBatch addresses), device) := rfl

/-- An operation goes on after a step that succeeded, and ends with a step that failed. -/
theorem ending_bind (op : Operation α) (f : α → Operation β) :
    (op >>= f).ending answers device =
      match op.ending answers device with
      | (.ok a, device) => (f a).ending answers device
      | (.error failure, device) => (.error failure, device) := by
  unfold ending
  change ((op.run.run device >>= fun r => _).run _ ()).1 = _
  rw [Dialogue.run_bind]
  obtain ⟨⟨outcome, device'⟩, ⟨⟩⟩ :=
    (op.run.run device).run (fun question (_ : Unit) => (answers question, ())) ()
  cases outcome with
  | ok a => rfl
  | error failure => rfl

theorem result_pure (a : α) : (pure a : Operation α).result answers device = .ok a := rfl

/-- After a step that leaves the device record as it is, the result is that of the rest. -/
theorem result_bind {op : Operation α} {outcome : Outcome α}
    (h : op.ending answers device = (outcome, device)) (f : α → Operation β) :
    (op >>= f).result answers device = outcome >>= fun a => (f a).result answers device := by
  unfold result
  rw [ending_bind, h]
  cases outcome with
  | ok a => rfl
  | error failure => rfl

theorem result_bind_ok {op : Operation α} {a : α} (h : op.ending answers device = (.ok a, device))
    (f : α → Operation β) : (op >>= f).result answers device = (f a).result answers device :=
  result_bind h f

/-! ## Reading one attribute -/

/-- The value that is read at an address, or why there is none. -/
def valueAt (answers : (question : Question) → Answer question) (context : String)
    (address : AttributeAddress) : Outcome Value := do
  let result ← answers (.read address)
  result.result.check context
  return result.value

theorem valueAt_of_success {address : AttributeAddress} {value : Value}
    (h : (answers (.read address) : Outcome GetResult) = .ok (.success value)) (context : String) :
    valueAt answers context address = .ok value := by
  unfold valueAt
  rw [h]
  rfl

theorem checkAll_singleton (context : String) (result : GetResult) :
    checkAll context [result] = result.result.check context := by
  change (result.result.check context >>= fun _ => pure ()) = _
  cases result.result.check context with
  | ok _ => rfl
  | error failure => rfl

variable (hsingle : ∀ address, answers (.readBatch [address]) =
  (answers (.read address) : Outcome GetResult).map fun result => [result])

include hsingle

/-- A single read is answered in the same way whether reads are put together or not. -/
theorem ending_readAll_singleton (address : AttributeAddress) :
    (readAll [address]).ending answers device =
      ((answers (.read address) : Outcome GetResult).map fun result => ⟨[result], rfl⟩, device) := by
  have hsingly : ([address].mapM readAttribute).ending answers device =
      ((answers (.read address) : Outcome GetResult).map fun result => [result], device) := by
    rw [List.mapM_cons, ending_bind, ending_readAttribute]
    cases answers (.read address) with
    | ok result => rfl
    | error failure => rfl
  unfold readAll
  rw [ending_bind, ending_get]
  dsimp only
  split
  · rw [ending_bind, ending_readBatch, hsingle]
    cases answers (.read address) with
    | ok result => rfl
    | error failure => rfl
  · rw [ending_bind, hsingly]
    cases answers (.read address) with
    | ok result => rfl
    | error failure => rfl

theorem ending_readValue (context : String) (address : AttributeAddress) :
    (readValue context address).ending answers device =
      (valueAt answers context address, device) := by
  unfold readValue readValues readChecked valueAt
  simp only [ending_bind, ending_readAll_singleton hsingle, ending_lift]
  cases answers (.read address) with
  | error failure => rfl
  | ok result =>
      simp only [Except.map, checkAll_singleton]
      change _ = ((result.result.check context >>= fun _ => pure result.value : Outcome Value), _)
      cases result.result.check context with
      | error failure => rfl
      | ok _ => rfl

end HeadEnd.Operation
