import HeadEnd.Key.Change
import HeadEnd.Proofs.Cipher.Aes
import HeadEnd.Proofs.Cipher.KeyWrap
import HeadEnd.Proofs.Session.Operation

/-! # Steps of a key change

What the steps of a key change ensure, whatever the rules of the world are, and what a transfer to
the meter tells of the key that it carries.
-/

namespace HeadEnd.KeyChange

variable {σ : Type} {rules : Rules Answer σ} {device : Device} {s : σ}

theorem ensures_decryptStored {key : SecurityKey}
    {post : Outcome (List UInt8) → Device → σ → Prop} :
    Task.Ensures rules (decryptStored key) device s post ↔
      match Hex.decode key.material.toList with
      | .ok data => ∀ answer t, rules (.decrypt data) s answer t → post answer device t
      | .error fault => post (.error (.security (.storedKey key.kind fault))) device s := by
  unfold decryptStored
  cases Hex.decode key.material.toList with
  | ok data => exact Operation.ensures_decrypt
  | error fault => exact Task.ensures_throw

theorem ensures_stage {change : KeyChange} {post : Outcome Unit → Device → σ → Prop} :
    Task.Ensures rules change.stage device s post ↔
      ∀ now t, rules .clock s now t → ∀ answer u,
        rules (.save (device.addNewKey change.kind (Hex.text change.material) now)) t answer u →
        match answer with
        | .ok stored => post (.ok ()) stored u
        | .error failure => post (.error failure)
          (device.addNewKey change.kind (Hex.text change.material) now) u := by
  simp only [stage, Task.ensures_bind, Operation.ensures_now, Task.ensures_modify,
    Operation.ensures_saveDevice]
  refine forall₃_congr fun now t _ => forall₃_congr fun answer u _ => ?_
  cases answer <;> exact Iff.rfl

theorem ensures_confirm {kind : KeyKind} {post : Outcome Unit → Device → σ → Prop} :
    Task.Ensures rules (confirm kind) device s post ↔
      ∀ now t, rules .clock s now t →
        match device.promoteNewKey kind now with
        | .error fault => post (.error (.protocol fault)) device t
        | .ok promoted => ∀ answer u, rules (.save promoted) t answer u →
          match answer with
          | .ok stored => post (.ok ()) stored u
          | .error failure => post (.error failure) promoted u := by
  simp only [confirm, Task.ensures_bind, Operation.ensures_now, Task.ensures_get]
  refine forall₃_congr fun now t _ => ?_
  cases device.promoteNewKey kind now with
  | error fault => exact Task.ensures_throw
  | ok promoted =>
      dsimp only
      rw [Task.ensures_bind, Task.ensures_set]
      refine Operation.ensures_saveDevice.trans (forall₃_congr fun answer u _ => ?_)
      cases answer <;> exact Iff.rfl

/-! ## A whole change -/

/-- What a change does between storing its key and taking it into use: it tells the meter. -/
def deliver (change : KeyChange) (role : KeyRole) (master : SecurityKey) :
    Operation (List UInt8) := do
  let masterKey ← decryptStored master
  let newKey ← Operation.decrypt change.material
  let wrapped ← (Cipher.KeyWrap.wrap Cipher.Aes.cipher masterKey newKey).mapError Failure.security
  let call := transfer role wrapped
  Operation.describe
    ("ReplaceKey for " ++ change.kind.label ++ " " ++ role.name ++ ", call method: " ++ call.text)
  let result ← Operation.callMethod call
  result.check ("replace " ++ change.kind.label ++ " key")
  return newKey

/-- What a change does once it is known that it can be made. -/
def proceed (change : KeyChange) (role : KeyRole) (master : SecurityKey) : Operation Unit := do
  change.stage
  let newKey ← change.deliver role master
  Operation.adoptKey change.kind newKey
  confirm change.kind

theorem execute_eq (change : KeyChange) : change.execute = (do
    let role ← change.kind.transferRole
    let now ← Operation.now
    let master ← (← get).validKey .master now
    let _ ← (← get).validKey change.kind now
    change.proceed role master) := by
  simp only [execute, proceed, deliver, bind_assoc, pure_bind]

/-- A change ends before anything is stored, or proceeds with the master key in use. -/
theorem ensures_execute {change : KeyChange} {post : Outcome Unit → Device → σ → Prop} :
    Task.Ensures rules change.execute device s post ↔
      match change.kind.transferRole with
      | .error failure => post (.error failure) device s
      | .ok role => ∀ now t, rules .clock s now t →
        match device.validKey .master now, device.validKey change.kind now with
        | .error failure, _ => post (.error failure) device t
        | _, .error failure => post (.error failure) device t
        | .ok master, .ok _ => Task.Ensures rules (change.proceed role master) device t post := by
  rw [execute_eq, Task.ensures_bind, Operation.ensures_lift]
  cases change.kind.transferRole with
  | error failure => exact Iff.rfl
  | ok role =>
      dsimp only
      rw [Task.ensures_bind, Operation.ensures_now]
      refine forall₃_congr fun now t _ => ?_
      dsimp only
      rw [Task.ensures_bind, Task.ensures_get]
      dsimp only
      rw [Task.ensures_bind, Operation.ensures_lift]
      cases device.validKey .master now with
      | error failure => exact Iff.rfl
      | ok master =>
          dsimp only
          rw [Task.ensures_bind, Task.ensures_get]
          dsimp only
          rw [Task.ensures_bind, Operation.ensures_lift]
          cases device.validKey change.kind now <;> exact Iff.rfl

/-! ## Transfers -/

theorem transfer_inj {role role' : KeyRole} {wrapped wrapped' : List UInt8}
    (h : transfer role wrapped = transfer role' wrapped') : role = role' ∧ wrapped = wrapped' := by
  simp only [transfer, MethodCall.mk.injEq, Option.some.injEq, Value.array.injEq,
    List.cons.injEq, Value.tuple.injEq, Value.enumerate.injEq, Value.octets.injEq, and_true,
    true_and] at h
  refine ⟨?_, h.2⟩
  have hid := h.1
  cases role <;> cases role' <;> first | rfl | cases hid

/-- Whoever has the master key finds the new key in what is transferred. -/
theorem unwrap_of_wrap {masterKey newKey wrapped : List UInt8}
    (h : Cipher.KeyWrap.wrap Cipher.Aes.cipher masterKey newKey = .ok wrapped) :
    Cipher.KeyWrap.unwrap Cipher.Aes.cipher masterKey wrapped = .ok newKey :=
  Cipher.KeyWrap.unwrap_of_wrap (fun block => (Cipher.Aes.cipher_isInvertible block).1) h

end HeadEnd.KeyChange

namespace HeadEnd

theorem MethodResult.check_eq_ok_iff {result : MethodResult} {context : String} :
    result.check context = .ok () ↔ result = .success := by
  cases result <;> simp [check, isSuccess]

end HeadEnd
