import HeadEnd.Proofs.Dialogue.History
import HeadEnd.Proofs.Exchange.Step
import HeadEnd.Proofs.Key.Promotion
import HeadEnd.Proofs.Key.Staging

/-! # How sessions are established

All that opening a session may do while the clock shows one instant: with which keys it connects,
which record it stores and how it ends, for every answer of the meter and of the store.
-/

namespace HeadEnd

/-! ## Keys of a device -/

namespace Device

variable {device : Device} {kind : KeyKind} {state : KeyState} {now : Instant}

/-- The first kind of which a key is needed to connect but none is in use. -/
def missingKind? (device : Device) (now : Instant) : Option KeyKind :=
  [KeyKind.authentication, .encryption].find? fun kind => (device.validKey? kind now).isNone

/-- The kinds of the keys, master keys apart, that wait to be confirmed. -/
def unconfirmedKinds (device : Device) (now : Instant) : List KeyKind :=
  [KeyKind.authentication, .encryption].filter fun kind => (device.newKey? kind now).isSome

def masterKeys (device : Device) : List SecurityKey :=
  device.keys.filter fun key => key.kind = .master

theorem masterKeys_withoutUnconfirmed (device : Device) (now : Instant) :
    (device.withoutUnconfirmed now).masterKeys = device.masterKeys := by
  rw [masterKeys, withoutUnconfirmed, List.filter_filter, masterKeys]
  refine List.filter_congr fun key _ => ?_
  by_cases hkind : key.kind = .master <;> simp [hkind]

theorem masterKeys_takenOver {kinds : List KeyKind} (h : KeyKind.master ∉ kinds) :
    (device.takenOver kinds now).masterKeys = device.masterKeys := by
  refine filter_mapIdx fun place key => ?_
  split
  · rename_i hmem
    have hkind : key.kind ≠ .master := by
      intro hmaster
      exact h (hmaster ▸ hmem)
    simp [takenOverAt_kind, hkind]
  · exact ⟨rfl, fun _ => rfl⟩

theorem is_of_key? {key : SecurityKey} (h : device.key? kind state now = some key) :
    key.is kind state now = true := by
  have hkey := List.find?_some h
  exact hkey

/-- The key that there is of a kind to connect with is unconfirmed if and only if there is an
unconfirmed one. -/
theorem kind_and_isIn_getD_newKey? {valid : SecurityKey}
    (hvalid : device.validKey? kind now = some valid) :
    ((device.newKey? kind now).getD valid).kind = kind ∧
      ((device.newKey? kind now).getD valid).isIn .new now = (device.newKey? kind now).isSome := by
  cases hnew : device.newKey? kind now with
  | none =>
      obtain ⟨hkind, hstate⟩ := SecurityKey.is_iff.mp (is_of_key? hvalid)
      simp [SecurityKey.isIn, hkind, hstate]
  | some key =>
      obtain ⟨hkind, hstate⟩ := SecurityKey.is_iff.mp (is_of_key? hnew)
      simp [SecurityKey.isIn, hkind, hstate]

theorem mem_unconfirmedKinds :
    kind ∈ device.unconfirmedKinds now ↔ kind ≠ .master ∧ (device.newKey? kind now).isSome = true := by
  cases kind <;> simp [unconfirmedKinds]

theorem hasUnconfirmed_iff :
    device.HasUnconfirmed now ↔ ∃ kind, kind ∈ device.unconfirmedKinds now := by
  simp only [HasUnconfirmed, mem_unconfirmedKinds, newKey?, key?, List.find?_isSome,
    SecurityKey.is_iff]
  constructor
  · rintro ⟨key, hmem, hkind, hnew⟩
    exact ⟨key.kind, hkind, key, hmem, rfl, hnew⟩
  · rintro ⟨_, hkind, key, hmem, rfl, hnew⟩
    exact ⟨key, hmem, hkind, hnew⟩

end Device

/-! ## Credentials -/

namespace Credentials

structure AreValid (credentials : Credentials) (device : Device) (now : Instant) : Prop where
  authentication : device.validKey? .authentication now = some credentials.authentication
  encryption : device.validKey? .encryption now = some credentials.encryption

/-- The credentials with each unconfirmed key of the device in place of the one of its kind. -/
def renewed (credentials : Credentials) (device : Device) (now : Instant) : Credentials where
  authentication := (device.newKey? .authentication now).getD credentials.authentication
  encryption := (device.newKey? .encryption now).getD credentials.encryption

variable {credentials : Credentials} {device : Device} {now : Instant}

/-- The keys in use are found, or else the first one that is missing is reported. -/
theorem valid_eq (device : Device) (now : Instant) :
    match device.missingKind? now with
    | some kind => valid device now = .error (.protocol (.noValidKey kind device.identification))
    | none => ∃ credentials, valid device now = .ok credentials ∧ credentials.AreValid device now := by
  unfold valid Device.validKey Device.missingKind?
  cases hauthentication : device.validKey? .authentication now with
  | none =>
      simp only [List.find?_cons, hauthentication, Option.isNone_none]
      rfl
  | some authentication =>
      cases hencryption : device.validKey? .encryption now with
      | none =>
          simp only [List.find?_cons, hauthentication, hencryption, Option.isNone_some,
            Option.isNone_none]
          rfl
      | some encryption =>
          simp only [List.find?_cons, List.find?_nil, hauthentication, hencryption,
            Option.isNone_some]
          exact ⟨⟨authentication, encryption⟩, rfl, hauthentication, hencryption⟩

/-- With an unconfirmed key there are credentials to try after those in use. -/
theorem withNew?_eq (credentials : Credentials) (device : Device) (now : Instant) :
    credentials.withNew? (device.newKey? .authentication now) (device.newKey? .encryption now) =
      if device.HasUnconfirmed now then some (credentials.renewed device now) else none := by
  have hsome : device.HasUnconfirmed now ↔ (device.newKey? .authentication now).isSome = true ∨
      (device.newKey? .encryption now).isSome = true := by
    rw [Device.hasUnconfirmed_iff]
    simp [Device.unconfirmedKinds, or_and_right, exists_or]
  simp only [hsome, renewed]
  cases device.newKey? .authentication now <;> cases device.newKey? .encryption now <;> rfl

/-- What is unconfirmed of the credentials is what was put in place of keys in use. -/
theorem AreValid.newKinds_renewed (h : credentials.AreValid device now) :
    (credentials.renewed device now).newKinds now = device.unconfirmedKinds now := by
  exact newKinds_eq_filter (Device.kind_and_isIn_getD_newKey? h.authentication)
    (Device.kind_and_isIn_getD_newKey? h.encryption)

end Credentials

namespace Exchange

/-! ## What is done -/

/-- The turn is more than a look at the clock. -/
def isDeed : Turn Answer → Bool
  | ⟨.session .clock, _⟩ => false
  | _ => true

/-- What was done, apart from looking at the clock. -/
def deeds (history : List (Turn Answer)) : List (Turn Answer) :=
  history.filter isDeed

def IsAt (now : Instant) : Turn Answer → Prop
  | ⟨.session .clock, answer⟩ => answer = now
  | _ => True

/-- How it ends that a record was to be stored after a connection was accepted: the session goes on
with the record as it was stored. -/
def afterSave (updated : Device) : Outcome Device → Outcome OpenSession × Device
  | .ok stored => (.ok ⟨stored.inDebugMode⟩, stored)
  | .error failure => (.error failure, updated)

/-- What opening a session does at an instant, and how it ends. -/
inductive Establishes (now : Instant) (device : Device) :
    List (Turn Answer) → Outcome OpenSession × Device → Prop where
  /-- A key to connect with is missing. -/
  | keyless {kind} : device.missingKind? now = some kind →
      Establishes now device []
        (.error (.protocol (.noValidKey kind device.identification)), device)
  /-- The keys in use are accepted. -/
  | opened {credentials : Credentials} : credentials.AreValid device now →
      ¬ device.HasUnconfirmed now →
      Establishes now device [⟨.connect device credentials, .ok ()⟩]
        (.ok ⟨device.inDebugMode⟩, device)
  /-- The keys in use are accepted, the others are discarded. -/
  | cleared {credentials : Credentials} {answer} : credentials.AreValid device now →
      device.HasUnconfirmed now →
      Establishes now device [⟨.connect device credentials, .ok ()⟩,
          ⟨.session (.save (device.withoutUnconfirmed now)), answer⟩]
        (afterSave (device.withoutUnconfirmed now) answer)
  /-- The keys in use are refused, and there is no reason to try others. -/
  | refused {credentials : Credentials} {failure} : credentials.AreValid device now →
      ¬ (failure.isConnectionLoss = true ∧ device.HasUnconfirmed now) →
      Establishes now device [⟨.connect device credentials, .error failure⟩]
        (.error failure, device)
  /-- All keys are refused. -/
  | refusedTwice {credentials : Credentials} {failure second} : credentials.AreValid device now →
      failure.isConnectionLoss = true → device.HasUnconfirmed now →
      Establishes now device [⟨.connect device credentials, .error failure⟩,
          ⟨.connect device (credentials.renewed device now), .error second⟩]
        (.error failure, device)
  /-- Unconfirmed keys are accepted and taken into use. -/
  | recovered {credentials : Credentials} {failure answer} : credentials.AreValid device now →
      failure.isConnectionLoss = true → device.HasUnconfirmed now →
      Establishes now device [⟨.connect device credentials, .error failure⟩,
          ⟨.connect device (credentials.renewed device now), .ok ()⟩,
          ⟨.session (.save (device.takenOver (device.unconfirmedKinds now) now)), answer⟩]
        (afterSave (device.takenOver (device.unconfirmedKinds now) now) answer)

variable {now : Instant} {device : Device} {credentials : Credentials}
  {before history : List (Turn Answer)}

/-! ## Questions -/

theorem deeds_snoc_clock (before : List (Turn Answer)) (answer : Instant) :
    deeds (before ++ [⟨.session .clock, answer⟩]) = deeds before := by
  simp [deeds, isDeed]

theorem deeds_snoc {turn : Turn Answer} (h : isDeed turn = true) :
    deeds (before ++ [turn]) = deeds before ++ [turn] := by
  simp [deeds, h]

/-- A look at the clock tells the instant and is no deed. -/
theorem clock_eq {answer : Instant}
    (h : recording (IsAt now) (.session .clock) before answer history) :
    now = answer ∧ deeds history = deeds before := by
  obtain ⟨hanswer, rfl⟩ := h
  exact ⟨Eq.symm hanswer, deeds_snoc_clock before answer⟩

theorem ensures_now_at {post : Outcome Instant → Device → List (Turn Answer) → Prop}
    (hpost : ∀ history, deeds history = deeds before → post (.ok now) device history) :
    Task.Ensures (recording (IsAt now)) (liftM Operation.now : Step Instant) device before post := by
  refine Step.ensures_now.mpr fun _ history hclock => ?_
  obtain ⟨rfl, hdeeds⟩ := clock_eq hclock
  exact hpost history hdeeds

theorem ensures_connect_at {post : Outcome (Outcome Unit) → Device → List (Turn Answer) → Prop}
    (hpost : ∀ answer history,
      deeds history = deeds before ++ [⟨.connect device credentials, answer⟩] →
      post (.ok answer) device history) :
    Task.Ensures (recording (IsAt now)) (connect credentials) device before post := by
  rw [Step.ensures_connect]
  rintro answer _ ⟨_, rfl⟩
  exact hpost answer _ (deeds_snoc rfl)

/-- How storing a record ends. -/
inductive Saves (before : List (Turn Answer)) (updated : Device) :
    Outcome Unit → Device → List (Turn Answer) → Prop where
  | stored {stored history} :
      deeds history = deeds before ++ [⟨.session (.save updated), .ok stored⟩] →
      Saves before updated (.ok ()) stored history
  | failed {failure history} :
      deeds history = deeds before ++ [⟨.session (.save updated), .error failure⟩] →
      Saves before updated (.error failure) updated history

theorem Saves.of_deeds_eq {updated : Device} {r : Outcome Unit} {d : Device}
    {later : List (Turn Answer)} (h : Saves history updated r d later)
    (hdeeds : deeds history = deeds before) : Saves before updated r d later := by
  cases h with
  | stored hsaved => exact .stored (hdeeds ▸ hsaved)
  | failed hsaved => exact .failed (hdeeds ▸ hsaved)

theorem ensures_saveDevice_at :
    Task.Ensures (recording (IsAt now)) (liftM Operation.saveDevice : Step Unit) device before
      (Saves before device) := by
  rw [Step.ensures_saveDevice]
  rintro answer _ ⟨_, rfl⟩
  cases answer with
  | ok stored => exact .stored (deeds_snoc rfl)
  | error failure => exact .failed (deeds_snoc rfl)

theorem isAt_of_answer {answers : (question : Question) → Answer question} {turn : Turn Answer}
    (hclock : answers (.session .clock) = now) (h : turn.answer = answers turn.question) :
    IsAt now turn := by
  obtain ⟨question, answer⟩ := turn
  unfold IsAt
  split
  · rename_i heq
    cases heq
    exact h.trans hclock
  · trivial

/-! ## Discarding -/

theorem ensures_discardNewKeys_at {kind : KeyKind}
    {post : Outcome Bool → Device → List (Turn Answer) → Prop}
    (hpost : ∀ history, deeds history = deeds before →
      post (.ok (decide ((device.discardNewKeys kind now).keys.length < device.keys.length)))
        (device.discardNewKeys kind now) history) :
    Task.Ensures (recording (IsAt now)) (discardNewKeys kind) device before post := by
  refine Step.ensures_discardNewKeys.mpr fun _ history hclock => ?_
  obtain ⟨rfl, hdeeds⟩ := clock_eq hclock
  exact hpost history hdeeds

/-- Keys that wait to be confirmed are discarded and the record is stored; if there are none, nothing
is done. -/
theorem ensures_discardUnconfirmed_at :
    Task.Ensures (recording (IsAt now)) discardUnconfirmed device before fun r d history =>
      ¬ device.HasUnconfirmed now ∧ r = .ok () ∧ d = device ∧ deeds history = deeds before ∨
        device.HasUnconfirmed now ∧ Saves before (device.withoutUnconfirmed now) r d history := by
  rw [discardUnconfirmed, Task.ensures_bind]
  refine ensures_now_at fun history hnow => ?_
  dsimp only
  rw [Task.ensures_bind, Step.ensures_get]
  dsimp only
  split
  · rw [Task.ensures_bind]
    refine ensures_discardNewKeys_at fun history hfirst => ?_
    dsimp only
    rw [Task.ensures_bind]
    refine ensures_discardNewKeys_at fun history hsecond => ?_
    have hdeeds := hsecond.trans (hfirst.trans hnow)
    dsimp only
    split
    · rename_i hshorter
      simp only [Bool.or_eq_true, decide_eq_true_eq] at hshorter
      rw [Device.discardNewKeys_discardNewKeys]
      exact ensures_saveDevice_at.imp fun _ _ _ hsaves =>
        .inr ⟨Device.hasUnconfirmed_iff_length.mpr hshorter, hsaves.of_deeds_eq hdeeds⟩
    · rename_i hkept
      simp only [Bool.or_eq_true, decide_eq_true_eq] at hkept
      have hnone := mt Device.hasUnconfirmed_iff_length.mp hkept
      rw [Device.discardNewKeys_discardNewKeys, Device.withoutUnconfirmed_eq_self_iff.mpr hnone,
        Task.ensures_pure]
      exact .inl ⟨hnone, rfl, rfl, hdeeds⟩
  · rename_i hnone
    rw [Task.ensures_pure]
    have hnone' : device.hasNewKeys now = false := by simpa using hnone
    exact .inl ⟨Device.not_hasUnconfirmed hnone', rfl, rfl, hnow⟩

/-! ## Taking over -/

theorem ensures_promoteConfirmed_at (h : credentials.AreValid device now) :
    Task.Ensures (recording (IsAt now)) (promoteConfirmed (credentials.renewed device now)) device
      before (Saves before (device.takenOver (device.unconfirmedKinds now) now)) := by
  rw [promoteConfirmed, Task.ensures_bind]
  refine ensures_now_at fun history hnow => ?_
  dsimp only
  rw [h.newKinds_renewed, Task.ensures_bind]
  have hnodup : (device.unconfirmedKinds now).Nodup :=
    List.Nodup.sublist List.filter_sublist (by decide)
  have hnew : ∀ kind ∈ device.unconfirmedKinds now,
      (Device.newPlace? device.keys kind now).isSome = true := by
    intro kind hkind
    obtain ⟨key, hkey⟩ := Option.isSome_iff_exists.mp (Device.mem_unconfirmedKinds.mp hkind).2
    rw [Device.newKey?, Device.key?_eq] at hkey
    exact Device.isSome_newPlace?_iff.mpr ⟨key, List.mem_of_head? hkey⟩
  refine (Step.ensures_promotions hnodup hnew).imp ?_
  rintro _ _ _ ⟨rfl, rfl, rfl⟩
  exact ensures_saveDevice_at.imp fun _ _ _ hsaves => hsaves.of_deeds_eq hnow

/-! ## Opening -/

/-- After a step that stores the record the session is open, unless the record could not be
stored. -/
theorem ensures_opened_of_saves {step : Step Unit} {updated : Device}
    (hstep : Task.Ensures (recording (IsAt now)) step device before (Saves before updated)) :
    Task.Ensures (recording (IsAt now)) (step >>= fun _ => opened : Step OpenSession) device before
      fun r d history => ∃ answer,
        deeds history = deeds before ++ [⟨.session (.save updated), answer⟩] ∧
          (r, d) = afterSave updated answer := by
  rw [Task.ensures_bind]
  refine hstep.imp ?_
  intro r d history hsaves
  cases hsaves with
  | stored hsaved => exact Step.ensures_opened.mpr ⟨_, hsaved, rfl⟩
  | failed hsaved => exact ⟨_, hsaved, rfl⟩

/-- After the keys in use were refused. -/
theorem ensures_recover_at (h : credentials.AreValid device now) {failure : Failure}
    (hbefore : deeds before = [⟨.connect device credentials, .error failure⟩]) :
    Task.Ensures (recording (IsAt now)) (recover credentials failure) device before
      fun r d history => Establishes now device (deeds history) (r, d) := by
  rw [recover, Task.ensures_bind, Step.ensures_recoveryCredentials?]
  intro _ _ hclock _ history hclock'
  obtain ⟨rfl, hfirst⟩ := clock_eq hclock
  obtain ⟨rfl, hsecond⟩ := clock_eq hclock'
  have hdeeds := (hsecond.trans hfirst).trans hbefore
  dsimp only
  rw [Credentials.withNew?_eq]
  by_cases hnew : device.HasUnconfirmed now
  · rw [if_pos hnew]
    dsimp only
    by_cases hloss : failure.isConnectionLoss = true
    · rw [if_neg (by simp [hloss]), Task.ensures_bind]
      refine ensures_connect_at fun answer history hconnect => ?_
      rw [hdeeds] at hconnect
      cases answer with
      | ok _ =>
          refine (ensures_opened_of_saves (ensures_promoteConfirmed_at h)).imp ?_
          rintro r d later ⟨answer, hsaved, hend⟩
          rw [hsaved, hconnect, hend]
          exact .recovered h hloss hnew
      | error second =>
          dsimp only
          rw [Step.ensures_throw, hconnect]
          exact .refusedTwice h hloss hnew
    · rw [if_pos (by simpa using hloss), Task.ensures_bind, Step.ensures_throw]
      dsimp only
      rw [hdeeds]
      exact .refused h fun ⟨hloss', _⟩ => hloss hloss'
  · rw [if_neg hnew]
    dsimp only
    rw [Step.ensures_throw, hdeeds]
    exact .refused h fun ⟨_, hnew'⟩ => hnew hnew'

theorem ensures_openSession_at :
    Task.Ensures (recording (IsAt now)) openSession device [] fun r d history =>
      Establishes now device (deeds history) (r, d) := by
  rw [openSession, Task.ensures_bind]
  refine ensures_now_at fun history hnow => ?_
  dsimp only
  rw [Task.ensures_bind, Step.ensures_get]
  dsimp only
  rw [Task.ensures_bind, Step.ensures_lift]
  have hvalid := Credentials.valid_eq device now
  cases hmissing : device.missingKind? now with
  | some kind =>
      rw [hmissing] at hvalid
      rw [hvalid]
      dsimp only
      rw [hnow]
      exact .keyless hmissing
  | none =>
      rw [hmissing] at hvalid
      obtain ⟨credentials, hvalid, hcredentials⟩ := hvalid
      rw [hvalid]
      dsimp only
      rw [Task.ensures_bind]
      refine ensures_connect_at fun answer history hconnect => ?_
      rw [hnow] at hconnect
      cases answer with
      | error failure => exact ensures_recover_at hcredentials hconnect
      | ok _ =>
          by_cases hnew : device.HasUnconfirmed now
          · have hdiscards : Task.Ensures (recording (IsAt now)) discardUnconfirmed device history
                (Saves history (device.withoutUnconfirmed now)) :=
              ensures_discardUnconfirmed_at.imp fun _ _ _ h =>
                (h.resolve_left fun hnone => hnone.1 hnew).2
            refine (ensures_opened_of_saves hdiscards).imp ?_
            rintro r d later ⟨answer, hsaved, hend⟩
            rw [hsaved, hconnect, hend]
            exact .cleared hcredentials hnew
          · dsimp only
            rw [Task.ensures_bind]
            refine ensures_discardUnconfirmed_at.imp ?_
            rintro r d later (⟨_, rfl, rfl, hlater⟩ | ⟨hnew', _⟩)
            · refine Step.ensures_opened.mpr ?_
              rw [hlater, hconnect]
              exact .opened hcredentials hnew
            · exact absurd hnew' hnew

/-! ## Master keys -/

/-- Nobody connects with a master key, and the master keys of a record are those of the device. -/
def SparesMasters (device : Device) : Turn Answer → Prop
  | ⟨.connect _ credentials, _⟩ => credentials.authentication.kind = .authentication ∧
      credentials.encryption.kind = .encryption
  | ⟨.session (.save record), _⟩ => record.masterKeys = device.masterKeys
  | _ => True

theorem sparesMasters_connect_valid (h : credentials.AreValid device now) {answer : Outcome Unit} :
    SparesMasters device ⟨.connect device credentials, answer⟩ :=
  ⟨(SecurityKey.is_iff.mp (Device.is_of_key? h.authentication)).1,
    (SecurityKey.is_iff.mp (Device.is_of_key? h.encryption)).1⟩

theorem sparesMasters_connect_renewed (h : credentials.AreValid device now)
    {answer : Outcome Unit} :
    SparesMasters device ⟨.connect device (credentials.renewed device now), answer⟩ :=
  ⟨(Device.kind_and_isIn_getD_newKey? h.authentication).1,
    (Device.kind_and_isIn_getD_newKey? h.encryption).1⟩

theorem Establishes.sparesMasters {done : List (Turn Answer)}
    {outcome : Outcome OpenSession × Device} (h : Establishes now device done outcome) :
    ∀ turn ∈ done, SparesMasters device turn := by
  cases h with
  | keyless _ => simp
  | opened h _ => simpa using sparesMasters_connect_valid h
  | refused h _ => simpa using sparesMasters_connect_valid h
  | cleared h _ =>
      have hmasters := device.masterKeys_withoutUnconfirmed now
      simpa using ⟨sparesMasters_connect_valid h, hmasters⟩
  | refusedTwice h _ _ =>
      simpa using ⟨sparesMasters_connect_valid h, sparesMasters_connect_renewed h⟩
  | recovered h _ _ =>
      have hmasters : (device.takenOver (device.unconfirmedKinds now) now).masterKeys =
          device.masterKeys :=
        Device.masterKeys_takenOver fun hmem => (Device.mem_unconfirmedKinds.mp hmem).1 rfl
      simpa using ⟨sparesMasters_connect_valid h, sparesMasters_connect_renewed h, hmasters⟩

/-! ## All ways to open a session -/

/-- Whatever the meter and the store answer while the clock shows one instant, opening a session
comes to an end, in one of the ways there are, and has nothing to do with master keys. -/
theorem openSession_establishes (now : Instant) (device : Device) :
    (∀ answers : (question : Question) → Answer question, answers (.session .clock) = now →
      ∃ outcome history, Dialogue.Runs (recording (IsAt now)) (openSession.run.run device) []
          outcome history ∧ ∀ turn ∈ history, turn.answer = answers turn.question) ∧
    ∀ outcome history, Dialogue.Runs (recording (IsAt now)) (openSession.run.run device) []
        outcome history →
      Establishes now device (deeds history) outcome ∧
        ∀ turn ∈ deeds history, SparesMasters device turn := by
  constructor
  · intro answers hclock
    have hruns := @Dialogue.runs_recorded _ _ _ (fun turn => turn.answer = answers turn.question)
      answers (fun _ => rfl) (openSession.run.run device) []
    refine ⟨_, _, hruns.mono ?_, hruns.forall_fair (by simp)⟩
    rintro question _ answer _ ⟨hanswer, hhistory⟩
    exact ⟨isAt_of_answer hclock hanswer, hhistory⟩
  · intro outcome history hruns
    have hestablishes := ensures_openSession_at outcome history hruns
    exact ⟨hestablishes, hestablishes.sparesMasters⟩

/-- A device with an unconfirmed key of each kind. -/
def unsettledDevice : Device where
  identification := "meter"
  keys := [
    ⟨.master, "m1", some ⟨0, 0⟩, none⟩, .unconfirmed .master "m2",
    ⟨.authentication, "a1", some ⟨0, 0⟩, none⟩, .unconfirmed .authentication "a2",
    ⟨.encryption, "e1", some ⟨0, 0⟩, none⟩, .unconfirmed .encryption "e2"]

/-- The answers of a world in which the clock shows the instant 5 and connections with the
authentication key `"a2"` are accepted. -/
def unsettledAnswer : (question : Question) → Answer question
  | .session .clock => ⟨5, 0⟩
  | .session question => obligingAnswer question
  | .acquire _ => ()
  | .release _ => ()
  | .load _ => .ok unsettledDevice
  | .connect _ credentials =>
    if credentials.authentication.material = "a2" then .ok () else .error .timeout
  | .close => .ok ()

theorem openSession_establishes_of_unsettled :
    (∃ outcome history, Dialogue.Runs (recording (IsAt ⟨5, 0⟩))
      (openSession.run.run unsettledDevice) [] outcome history ∧
      ∀ turn ∈ history, turn.answer = unsettledAnswer turn.question) ∧
    ∃ d history, Dialogue.Runs (recording (IsAt ⟨5, 0⟩)) (openSession.run.run unsettledDevice) []
        (.ok ⟨false⟩, d) history ∧
      Establishes ⟨5, 0⟩ unsettledDevice (deeds history) (.ok ⟨false⟩, d) ∧
      (∀ turn ∈ deeds history, SparesMasters unsettledDevice turn) ∧
      d.keys = [
        ⟨.master, "m1", some ⟨0, 0⟩, none⟩, .unconfirmed .master "m2",
        ⟨.authentication, "a1", some ⟨0, 0⟩, some ⟨5, 0⟩⟩,
        ⟨.authentication, "a2", some ⟨5, 0⟩, none⟩,
        ⟨.encryption, "e1", some ⟨0, 0⟩, some ⟨5, 0⟩⟩, ⟨.encryption, "e2", some ⟨5, 0⟩, none⟩] := by
  obtain ⟨hexists, hall⟩ := openSession_establishes ⟨5, 0⟩ unsettledDevice
  have hruns := @Dialogue.runs_recorded _ _ _ (IsAt ⟨5, 0⟩) unsettledAnswer
    (fun _ => @isAt_of_answer _ unsettledAnswer _ rfl rfl) (openSession.run.run unsettledDevice) []
  obtain ⟨hestablishes, hspares⟩ := hall _ _ hruns
  exact ⟨hexists unsettledAnswer rfl, _, _, hruns, hestablishes, hspares, rfl⟩

end Exchange

end HeadEnd
