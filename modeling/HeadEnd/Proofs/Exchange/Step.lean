import HeadEnd.Exchange.Opening
import HeadEnd.Proofs.Key.Promotion
import HeadEnd.Proofs.Session.Operation

/-! # Steps of an exchange

What the steps of an exchange ensure. The questions of a session are asked under the rules that the
world has for them within an exchange.
-/

namespace HeadEnd

/-- The kinds of the unconfirmed keys of credentials, each of which is of its kind. -/
theorem Credentials.newKinds_eq_filter {credentials : Credentials} {now : Instant}
    {isNew : KeyKind → Bool}
    (hauthentication : credentials.authentication.kind = .authentication ∧
      credentials.authentication.isIn .new now = isNew .authentication)
    (hencryption : credentials.encryption.kind = .encryption ∧
      credentials.encryption.isIn .new now = isNew .encryption) :
    credentials.newKinds now = [KeyKind.authentication, .encryption].filter isNew := by
  rw [newKinds]
  simp only [List.filter_cons, List.filter_nil, hauthentication.2, hencryption.2]
  split <;> split <;> simp [hauthentication.1, hencryption.1]

namespace Exchange

variable {α σ : Type} {rules : Rules Answer σ} {device : Device} {s t : σ}

/-- The rules of a world for the questions of a session. -/
def sessionRules (rules : Rules Answer σ) : Rules HeadEnd.Answer σ :=
  fun question => rules (.session question)

theorem runs_question_iff {question : Question} {answer : Answer question} :
    Dialogue.Runs rules (ask question) s answer t ↔ rules question s answer t := by
  have hask : Dialogue.Runs rules (ask question) s answer t ↔ _ := Dialogue.runs_ask_iff
  rw [hask]
  constructor
  · rintro ⟨_, _, hrules, hdone⟩
    obtain ⟨rfl, rfl⟩ := Dialogue.runs_done_iff.mp hdone
    exact hrules
  · intro hrules
    exact ⟨answer, t, hrules, .done answer t⟩

theorem runs_ofSession_iff {session : Session α} {a : α} :
    Dialogue.Runs rules (ofSession session) s a t ↔
      Dialogue.Runs (sessionRules rules) session s a t := by
  have hask : (fun question s answer t =>
      Dialogue.Runs rules (ask (.session question)) s answer t) = sessionRules rules := by
    funext question s answer t
    exact propext runs_question_iff
  rw [ofSession, Dialogue.runs_relay_iff, hask]

namespace Step

@[simp] theorem ensures_ask {question : Question}
    {post : Outcome (Answer question) → Device → σ → Prop} :
    Task.Ensures rules (ask question) device s post ↔
      ∀ answer t, rules question s answer t → post (.ok answer) device t := by
  change Dialogue.Ensures rules
    (.ask question fun answer => .done (Except.ok answer, device)) s _ ↔ _
  simp only [Dialogue.ensures_ask, Dialogue.ensures_done]

@[simp] theorem ensures_ofOutcome {outcome : Outcome α} {post : Outcome α → Device → σ → Prop} :
    Task.Ensures rules (ofOutcome outcome) device s post ↔ post outcome device s :=
  Dialogue.ensures_done

@[simp] theorem ensures_lift {outcome : Outcome α} {post : Outcome α → Device → σ → Prop} :
    Task.Ensures rules (liftM outcome : Step α) device s post ↔ post outcome device s :=
  Dialogue.ensures_done

@[simp] theorem ensures_ofOperation {operation : Operation α}
    {post : Outcome α → Device → σ → Prop} :
    Task.Ensures rules (liftM operation : Step α) device s post ↔
      Task.Ensures (sessionRules rules) operation device s post := by
  have hruns : ∀ r t, Dialogue.Runs rules ((liftM operation : Step α).run.run device) s r t ↔
      Dialogue.Runs (sessionRules rules) (operation.run.run device) s r t :=
    fun _ _ => runs_ofSession_iff
  unfold Task.Ensures Dialogue.Ensures
  simp only [hruns]

@[simp] theorem ensures_throw {failure : Failure} {post : Outcome α → Device → σ → Prop} :
    Task.Ensures rules (throw failure : Step α) device s post ↔ post (.error failure) device s :=
  Dialogue.ensures_done

@[simp] theorem ensures_get {post : Outcome Device → Device → σ → Prop} :
    Task.Ensures rules (get : Step Device) device s post ↔ post (.ok device) device s :=
  Dialogue.ensures_done

@[simp] theorem ensures_set {device' : Device} {post : Outcome PUnit → Device → σ → Prop} :
    Task.Ensures rules (set device' : Step PUnit) device s post ↔ post (.ok ⟨⟩) device' s :=
  Dialogue.ensures_done

/-! ## Parts of opening a session -/

theorem ensures_now {post : Outcome Instant → Device → σ → Prop} :
    Task.Ensures rules (liftM Operation.now : Step Instant) device s post ↔
      ∀ now t, rules (.session .clock) s now t → post (.ok now) device t := by
  rw [ensures_ofOperation, Operation.ensures_now]
  rfl

/-- The step goes on with the record as it was stored, or keeps the one that it has. -/
theorem ensures_saveDevice {post : Outcome Unit → Device → σ → Prop} :
    Task.Ensures rules (liftM Operation.saveDevice : Step Unit) device s post ↔
      ∀ answer t, rules (.session (.save device)) s answer t →
        match answer with
        | .ok stored => post (.ok ()) stored t
        | .error failure => post (.error failure) device t := by
  rw [ensures_ofOperation, Operation.ensures_saveDevice]
  rfl

theorem ensures_connect {credentials : Credentials}
    {post : Outcome (Outcome Unit) → Device → σ → Prop} :
    Task.Ensures rules (connect credentials) device s post ↔
      ∀ answer t, rules (.connect device credentials) s answer t →
        post (.ok answer) device t := by
  rw [connect, Task.ensures_bind, ensures_get]
  exact ensures_ask

theorem ensures_discardNewKeys {kind : KeyKind} {post : Outcome Bool → Device → σ → Prop} :
    Task.Ensures rules (discardNewKeys kind) device s post ↔
      ∀ now t, rules (.session .clock) s now t →
        post (.ok (decide ((device.discardNewKeys kind now).keys.length < device.keys.length)))
          (device.discardNewKeys kind now) t := by
  simp only [discardNewKeys, Task.ensures_bind, ensures_now, ensures_get,
    ensures_set, Task.ensures_pure]

/-- The clock is asked for each of the two keys. -/
theorem ensures_recoveryCredentials? {credentials : Credentials}
    {post : Outcome (Option Credentials) → Device → σ → Prop} :
    Task.Ensures rules (recoveryCredentials? credentials) device s post ↔
      ∀ first t, rules (.session .clock) s first t →
        ∀ second u, rules (.session .clock) t second u →
          post (.ok (credentials.withNew? (device.newKey? .authentication first)
            (device.newKey? .encryption second))) device u := by
  simp only [recoveryCredentials?, Task.ensures_bind, ensures_now, ensures_get,
    Task.ensures_pure]

/-- Unconfirmed keys of different kinds can be promoted one after the other. -/
theorem ensures_promotions {now : Instant} {kinds : List KeyKind} (hnodup : kinds.Nodup)
    (hnew : ∀ kind ∈ kinds, (Device.newPlace? device.keys kind now).isSome = true) :
    Task.Ensures rules (kinds.forM (promote now)) device s fun r d t =>
      r = .ok () ∧ d = device.takenOver kinds now ∧ t = s := by
  induction kinds generalizing device with
  | nil =>
      rw [List.forM, Task.ensures_pure]
      exact ⟨rfl, Device.takenOver_nil.symm, rfl⟩
  | cons kind kinds ih =>
      obtain ⟨hkind, hnodup⟩ := List.nodup_cons.mp hnodup
      obtain ⟨hfirst, hrest⟩ := List.forall_mem_cons.mp hnew
      rw [List.forM, Task.ensures_bind, promote, Task.ensures_bind, ensures_get]
      dsimp only
      rw [Device.promoteNewKey_eq_takenOver hfirst, ensures_set]
      dsimp only
      rw [← Device.takenOver_takenOver hkind]
      refine ih hnodup fun j hj => ?_
      -- The kinds differ, so the unconfirmed keys of those that remain are where they were.
      have hne : j ∉ [kind] := by
        intro hmem
        exact hkind (List.mem_singleton.mp hmem ▸ hj)
      rw [Device.newPlace?_takenOver hne]
      exact hrest j hj

theorem ensures_opened {post : Outcome OpenSession → Device → σ → Prop} :
    Task.Ensures rules opened device s post ↔ post (.ok ⟨device.inDebugMode⟩) device s := by
  rw [opened, Task.ensures_bind, ensures_get]
  exact Task.ensures_pure

end Step

end Exchange

end HeadEnd
