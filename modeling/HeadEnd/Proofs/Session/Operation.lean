import HeadEnd.Proofs.Dialogue.Task
import HeadEnd.Session.Reading

/-! # Operations

What the questions of an operation ensure, whatever the rules of the world are. A question that can
fail ends the operation with its failure. Beside it, what an operation asks if it leaves the device
record as it is.
-/

namespace HeadEnd.Operation

variable {α σ : Type} {rules : Rules Answer σ} {device : Device} {s : σ}

/-! ## What operations ensure -/

@[simp] theorem ensures_ask {question : Question}
    {post : Outcome (Answer question) → Device → σ → Prop} :
    Task.Ensures rules (ask question) device s post ↔
      ∀ answer t, rules question s answer t → post (.ok answer) device t := by
  change Dialogue.Ensures rules
    (.ask question fun answer => .done (Except.ok answer, device)) s _ ↔ _
  simp only [Dialogue.ensures_ask, Dialogue.ensures_done]

@[simp] theorem ensures_ofOutcome {outcome : Outcome α} {post : Outcome α → Device → σ → Prop} :
    Task.Ensures rules (ofOutcome outcome) device s post ↔ post outcome device s :=
  Dialogue.ensures_done

@[simp] theorem ensures_lift {outcome : Outcome α} {post : Outcome α → Device → σ → Prop} :
    Task.Ensures rules (liftM outcome : Operation α) device s post ↔ post outcome device s :=
  Dialogue.ensures_done

@[simp] theorem ensures_now {post : Outcome Instant → Device → σ → Prop} :
    Task.Ensures rules now device s post ↔
      ∀ answer t, rules .clock s answer t → post (.ok answer) device t :=
  ensures_ask

@[simp] theorem ensures_describe {text : String} {post : Outcome Unit → Device → σ → Prop} :
    Task.Ensures rules (describe text) device s post ↔
      ∀ t, rules (.describe text) s () t → post (.ok ()) device t := by
  rw [describe, ensures_ask]
  exact ⟨fun h t => h () t, fun h _ t => h t⟩

/-- A question whose answer is the outcome of the request. -/
theorem ensures_request (question : Question) (outcome : Answer question → Outcome α)
    {post : Outcome α → Device → σ → Prop} :
    Task.Ensures rules (ask question >>= fun answer => ofOutcome (outcome answer)) device s post ↔
      ∀ answer t, rules question s answer t → post (outcome answer) device t := by
  simp only [Task.ensures_bind, ensures_ask, ensures_ofOutcome]

@[simp] theorem ensures_readAttribute {address : AttributeAddress}
    {post : Outcome GetResult → Device → σ → Prop} :
    Task.Ensures rules (readAttribute address) device s post ↔
      ∀ answer t, rules (.read address) s answer t → post answer device t :=
  ensures_request (.read address) id

@[simp] theorem ensures_readBatch {addresses : List AttributeAddress}
    {post : Outcome (List GetResult) → Device → σ → Prop} :
    Task.Ensures rules (readBatch addresses) device s post ↔
      ∀ answer t, rules (.readBatch addresses) s answer t → post answer device t :=
  ensures_request (.readBatch addresses) id

@[simp] theorem ensures_writeAttribute {address : AttributeAddress} {value : Value}
    {post : Outcome AccessResult → Device → σ → Prop} :
    Task.Ensures rules (writeAttribute address value) device s post ↔
      ∀ answer t, rules (.write ⟨address, value⟩) s answer t → post answer device t :=
  ensures_request (.write ⟨address, value⟩) id

@[simp] theorem ensures_callMethod {method : MethodCall}
    {post : Outcome MethodResult → Device → σ → Prop} :
    Task.Ensures rules (callMethod method) device s post ↔
      ∀ answer t, rules (.call method) s answer t → post answer device t :=
  ensures_request (.call method) id

@[simp] theorem ensures_adoptKey {kind : KeyKind} {key : List UInt8}
    {post : Outcome Unit → Device → σ → Prop} :
    Task.Ensures rules (adoptKey kind key) device s post ↔
      ∀ answer t, rules (.adoptKey kind key) s answer t → post answer device t :=
  ensures_request (.adoptKey kind key) id

@[simp] theorem ensures_decrypt {data : List UInt8}
    {post : Outcome (List UInt8) → Device → σ → Prop} :
    Task.Ensures rules (decrypt data) device s post ↔
      ∀ answer t, rules (.decrypt data) s answer t → post answer device t :=
  ensures_request (.decrypt data) id

/-- The operation goes on with the record as it was stored, or keeps the one that it has. -/
@[simp] theorem ensures_saveDevice {post : Outcome Unit → Device → σ → Prop} :
    Task.Ensures rules saveDevice device s post ↔
      ∀ answer t, rules (.save device) s answer t →
        match answer with
        | .ok stored => post (.ok ()) stored t
        | .error failure => post (.error failure) device t := by
  change Dialogue.Ensures rules (.ask (.save device) fun answer => _) s _ ↔ _
  rw [Dialogue.ensures_ask]
  refine forall_congr' fun answer => forall₂_congr fun t _ => ?_
  cases answer with
  | ok stored => exact Dialogue.ensures_done
  | error failure => exact Dialogue.ensures_done

section Reading

variable {address : AttributeAddress}

/-- Where a read has a certain result, on its own or as the only one of a request, that result is
read. -/
theorem ensures_readAll_singleton (result : GetResult)
    {post : Outcome { results : List GetResult // results.length = [address].length } → Device → σ →
      Prop}
    (hread : ∀ answer t, rules (.read address) s answer t →
      answer = .ok result ∧ post (.ok ⟨[result], rfl⟩) device t)
    (hbatch : ∀ answer t, rules (.readBatch [address]) s answer t →
      answer = .ok [result] ∧ post (.ok ⟨[result], rfl⟩) device t) :
    Task.Ensures rules (readAll [address]) device s post := by
  have hlength : [result].length = [address].length := rfl
  rw [readAll, Task.ensures_bind, Task.ensures_get]
  dsimp only
  split
  · rw [Task.ensures_bind, ensures_readBatch]
    intro answer t hrules
    obtain ⟨rfl, hpost⟩ := hbatch answer t hrules
    dsimp only
    rw [dif_pos hlength, Task.ensures_pure]
    exact hpost
  · rw [Task.ensures_bind, List.mapM_cons, Task.ensures_bind, ensures_readAttribute]
    intro answer t hrules
    obtain ⟨rfl, hpost⟩ := hread answer t hrules
    simp only [List.mapM_nil, Task.ensures_bind, Task.ensures_pure]
    rw [dif_pos hlength, Task.ensures_pure]
    exact hpost

/-- Where a read succeeds with a certain value, that value is read. -/
theorem ensures_readValue (value : Value) (context : String)
    {post : Outcome Value → Device → σ → Prop}
    (hread : ∀ answer t, rules (.read address) s answer t →
      answer = .ok (.success value) ∧ post (.ok value) device t)
    (hbatch : ∀ answer t, rules (.readBatch [address]) s answer t →
      answer = .ok [.success value] ∧ post (.ok value) device t) :
    Task.Ensures rules (readValue context address) device s post := by
  have hall : Task.Ensures rules (readAll [address]) device s fun r d t =>
      r = .ok ⟨[.success value], rfl⟩ ∧ d = device ∧ post (.ok value) device t := by
    refine ensures_readAll_singleton (.success value) ?_ ?_
    · intro answer t hrules
      obtain ⟨hanswer, hpost⟩ := hread answer t hrules
      exact ⟨hanswer, rfl, rfl, hpost⟩
    · intro answer t hrules
      obtain ⟨hanswer, hpost⟩ := hbatch answer t hrules
      exact ⟨hanswer, rfl, rfl, hpost⟩
  unfold readValue readValues readChecked
  simp only [Task.ensures_bind]
  refine hall.imp ?_
  rintro _ _ t ⟨rfl, rfl, hpost⟩
  dsimp only
  have hchecked : checkAll context [.success value] = .ok () := rfl
  rw [hchecked, ensures_lift]
  simp only [Task.ensures_pure]
  exact Task.ensures_pure.mpr hpost

end Reading

/-! ## What operations ask -/

variable {P : Question → Prop}

theorem keeps_ask {question : Question} (h : P question) : Task.Keeps P (ask question) :=
  fun _ => .ask h fun _ => .done rfl

theorem keeps_lift (outcome : Outcome α) : Task.Keeps P (liftM outcome : Operation α) :=
  fun _ => .done rfl

theorem keeps_ofOutcome (outcome : Outcome α) : Task.Keeps P (ofOutcome outcome) :=
  fun _ => .done rfl

/-- What goes on with a result asks what it asks with the one that there is. -/
theorem keeps_lift_bind {β : Type} {outcome : Outcome α} {f : α → Operation β}
    (h : ∀ a, outcome = .ok a → Task.Keeps P (f a)) :
    Task.Keeps P (liftM outcome >>= f : Operation β) := by
  cases outcome with
  | error failure => exact fun _ => .done rfl
  | ok a => exact h a rfl

theorem keeps_readAttribute {address : AttributeAddress} (h : P (.read address)) :
    Task.Keeps P (readAttribute address) :=
  (keeps_ask h).bind keeps_ofOutcome

theorem keeps_readBatch {addresses : List AttributeAddress} (h : P (.readBatch addresses)) :
    Task.Keeps P (readBatch addresses) :=
  (keeps_ask h).bind keeps_ofOutcome

theorem keeps_writeAttribute {address : AttributeAddress} {value : Value}
    (h : P (.write ⟨address, value⟩)) : Task.Keeps P (writeAttribute address value) :=
  (keeps_ask h).bind keeps_ofOutcome

theorem keeps_readAll {addresses : List AttributeAddress} (hbatch : P (.readBatch addresses))
    (hread : ∀ address ∈ addresses, P (.read address)) : Task.Keeps P (readAll addresses) := by
  have hcount (results : List GetResult) : Task.Keeps P (do
      if h : results.length = addresses.length then return ⟨results, h⟩
      else throw (.protocol (.resultCount addresses.length results.length)) :
        Operation { results : List GetResult // results.length = addresses.length }) := by
    split
    · exact Task.keeps_pure _
    · exact Task.keeps_throw _
  refine Task.keeps_get.bind fun device => ?_
  dsimp only
  split
  · exact (keeps_readBatch hbatch).bind hcount
  · exact (Task.keeps_mapM fun address haddress => keeps_readAttribute (hread address haddress)).bind
      hcount

theorem keeps_readValues {addresses : List AttributeAddress} (context : String)
    (hbatch : P (.readBatch addresses)) (hread : ∀ address ∈ addresses, P (.read address)) :
    Task.Keeps P (readValues context addresses) := by
  have hchecked : Task.Keeps P (readChecked context addresses) :=
    (keeps_readAll hbatch hread).bind fun results =>
      (keeps_lift _).bind fun _ => Task.keeps_pure results
  exact hchecked.bind fun _ => Task.keeps_pure _

theorem keeps_readValue {address : AttributeAddress} (context : String)
    (hbatch : P (.readBatch [address])) (hread : P (.read address)) :
    Task.Keeps P (readValue context address) := by
  have hvalues : Task.Keeps P (readValues context [address]) :=
    keeps_readValues context hbatch (List.forall_mem_singleton.mpr hread)
  exact hvalues.bind fun
    | ⟨[_], _⟩ => Task.keeps_pure _

end HeadEnd.Operation
