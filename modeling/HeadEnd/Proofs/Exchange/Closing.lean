import HeadEnd.Proofs.Dialogue.History
import HeadEnd.Proofs.Exchange.Service
import HeadEnd.Proofs.Key.Staging
import HeadEnd.Tariff.ActivityCalendar

/-! # The end of connections

An exchange gets one connection at most, and closes it before it is over. There is one way around
this: if a record cannot be stored while the session is being opened, the connection that there is
by then stays open.
-/

namespace HeadEnd

/-! ## Credentials of a device -/

namespace Credentials

/-- The credentials are keys of the device, each of its kind. -/
structure BelongTo (credentials : Credentials) (device : Device) : Prop where
  authentication : credentials.authentication ∈ device.keys ∧
    credentials.authentication.kind = .authentication
  encryption : credentials.encryption ∈ device.keys ∧ credentials.encryption.kind = .encryption

variable {credentials recovery : Credentials} {device : Device} {first second now : Instant}

theorem BelongTo.of_valid (h : valid device now = .ok credentials) :
    credentials.BelongTo device := by
  unfold valid Device.validKey at h
  cases hauthentication : device.validKey? .authentication now with
  | none =>
      rw [hauthentication] at h
      cases h
  | some authentication =>
      cases hencryption : device.validKey? .encryption now with
      | none =>
          rw [hauthentication, hencryption] at h
          cases h
      | some encryption =>
          rw [hauthentication, hencryption] at h
          cases h
          exact ⟨Device.of_key? hauthentication, Device.of_key? hencryption⟩

theorem BelongTo.withNew? (h : credentials.BelongTo device)
    (hrecovery : credentials.withNew? (device.newKey? .authentication first)
      (device.newKey? .encryption second) = some recovery) : recovery.BelongTo device := by
  have hkey : ∀ kind time (valid : SecurityKey), valid ∈ device.keys ∧ valid.kind = kind →
      (device.newKey? kind time).getD valid ∈ device.keys ∧
        ((device.newKey? kind time).getD valid).kind = kind := by
    intro kind time valid hvalid
    cases hnew : device.newKey? kind time with
    | none => exact hvalid
    | some new => exact Device.of_key? hnew
  unfold Credentials.withNew? at hrecovery
  split at hrecovery
  · cases hrecovery
  · cases hrecovery
    exact ⟨hkey _ _ _ h.authentication, hkey _ _ _ h.encryption⟩

/-- The kinds of unconfirmed credentials differ, and of each the device has an unconfirmed key. -/
theorem BelongTo.newKinds (h : credentials.BelongTo device) (now : Instant) :
    (credentials.newKinds now).Nodup ∧
      ∀ kind ∈ credentials.newKinds now,
        (Device.newPlace? device.keys kind now).isSome = true := by
  constructor
  · have hkinds : [credentials.authentication, credentials.encryption].map SecurityKey.kind =
        [.authentication, .encryption] := by
      simp [h.authentication.2, h.encryption.2]
    have hsublist : (credentials.newKinds now).Sublist [.authentication, .encryption] :=
      hkinds ▸ List.filter_sublist.map SecurityKey.kind
    exact List.Nodup.sublist hsublist (by decide)
  · intro kind hkind
    obtain ⟨key, hkey, rfl⟩ := List.mem_map.mp hkind
    obtain ⟨hmem, hnew⟩ := List.mem_filter.mp hkey
    have hkeys : key ∈ device.keys := by
      simp only [List.mem_cons, List.not_mem_nil, or_false] at hmem
      rcases hmem with rfl | rfl
      · exact h.authentication.1
      · exact h.encryption.1
    have hkeysIn : key ∈ device.keysIn key.kind .new now :=
      Device.mem_keysIn.mpr ⟨hkeys, rfl, by simpa [SecurityKey.isIn] using hnew⟩
    exact Device.isSome_newPlace?_iff.mpr ⟨key, hkeysIn⟩

end Credentials

namespace Exchange

/-! ## Connections in histories -/

inductive ConnectionEvent where
  | opened
  | closed
  deriving DecidableEq

/-- What becomes of connections in a turn. -/
def connectionEvent? : Turn Answer → Option ConnectionEvent
  | ⟨.connect _ _, .ok _⟩ => some .opened
  | ⟨.close, _⟩ => some .closed
  | _ => none

def connectionEvents (history : List (Turn Answer)) : List ConnectionEvent :=
  history.filterMap connectionEvent?

/-- The failure to store a record. -/
def storeFailure? : Turn Answer → Option Failure
  | ⟨.session (.save _), .error failure⟩ => some failure
  | _ => none

/-- The failure to store a record that the history ends with. -/
def unstored? (history : List (Turn Answer)) : Option Failure :=
  history.getLast?.bind storeFailure?

section Histories

variable {before history later : List (Turn Answer)} {turn : Turn Answer} {failure : Failure}

theorem connectionEvents_snoc_of_none (h : connectionEvent? turn = none) :
    connectionEvents (history ++ [turn]) = connectionEvents history := by
  simp [connectionEvents, h]

theorem connectionEvents_snoc_of_some {event : ConnectionEvent}
    (h : connectionEvent? turn = some event) :
    connectionEvents (history ++ [turn]) = connectionEvents history ++ [event] := by
  simp [connectionEvents, h]

theorem unstored?_snoc : unstored? (history ++ [turn]) = storeFailure? turn := by
  simp [unstored?]

theorem exists_turn_of_unstored? (h : unstored? history = some failure) :
    ∃ past record, history = past ++ [⟨.session (.save record), .error failure⟩] := by
  obtain ⟨turn, hlast, hturn⟩ := Option.bind_eq_some_iff.mp h
  obtain ⟨past, rfl⟩ := List.getLast?_eq_some_iff.mp hlast
  unfold storeFailure? at hturn
  split at hturn
  · cases hturn
    exact ⟨past, _, rfl⟩
  · cases hturn

/-- Since `before` nothing has become of a connection, and the history does not end with the failure
to store a record. -/
structure Uneventful (before history : List (Turn Answer)) : Prop where
  events : connectionEvents history = connectionEvents before
  stored : unstored? history = none

theorem Uneventful.snoc (hevent : connectionEvent? turn = none)
    (hstored : storeFailure? turn = none) : Uneventful before (before ++ [turn]) where
  events := connectionEvents_snoc_of_none hevent
  stored := unstored?_snoc.trans hstored

theorem Uneventful.trans (h : Uneventful before history) (hlater : Uneventful history later) :
    Uneventful before later where
  events := hlater.events.trans h.events
  stored := hlater.stored

/-- Since `before` nothing has become of a connection, and only a failure to store a record, with
which the history ends, is a failure. -/
structure Updated {α : Type} (before : List (Turn Answer)) (r : Outcome α)
    (history : List (Turn Answer)) : Prop where
  events : connectionEvents history = connectionEvents before
  failed : ∀ failure, r = .error failure → unstored? history = some failure

theorem Uneventful.updated {α : Type} (h : Uneventful before history) (a : α) :
    Updated before (.ok a) history where
  events := h.events
  failed failure hfailure := by cases hfailure

theorem Uneventful.trans_updated {α : Type} {r : Outcome α} (h : Uneventful before history)
    (hlater : Updated history r later) : Updated before r later where
  events := hlater.events.trans h.events
  failed := hlater.failed

end Histories

variable {α : Type} {fair : Turn Answer → Prop} {device : Device}
  {before history : List (Turn Answer)}

/-- Over a session nothing becomes of the connection. -/
theorem connectionEvents_of_runs_session {session : Session α} {a : α}
    (h : Dialogue.Runs (sessionRules (recording fair)) session before a history) :
    connectionEvents history = connectionEvents before := by
  have step : ∀ question past answer later,
      sessionRules (recording fair) question past answer later →
      connectionEvents past = connectionEvents before →
      connectionEvents later = connectionEvents before := by
    rintro question past answer later ⟨_, rfl⟩ hpast
    exact (connectionEvents_snoc_of_none rfl).trans hpast
  exact h.preserves step rfl

/-! ## Questions -/

theorem uneventful_clock {now : Instant}
    (h : recording fair (.session .clock) before now history) : Uneventful before history := by
  obtain ⟨_, rfl⟩ := h
  exact .snoc rfl rfl

theorem ensures_now_recording {post : Outcome Instant → Device → List (Turn Answer) → Prop}
    (hpost : ∀ now history, Uneventful before history → post (.ok now) device history) :
    Task.Ensures (recording fair) (liftM Operation.now : Step Instant) device before post := by
  exact Step.ensures_now.mpr fun now history hclock => hpost now history (uneventful_clock hclock)

theorem ensures_saveDevice_recording :
    Task.Ensures (recording fair) (liftM Operation.saveDevice : Step Unit) device before
      fun r _ history => Updated before r history := by
  rw [Step.ensures_saveDevice]
  rintro answer _ ⟨_, rfl⟩
  cases answer with
  | ok stored => exact (Uneventful.snoc rfl rfl).updated ()
  | error failure =>
      refine ⟨connectionEvents_snoc_of_none rfl, ?_⟩
      rintro _ ⟨⟩
      exact unstored?_snoc

theorem ensures_connect_recording {credentials : Credentials}
    {post : Outcome (Outcome Unit) → Device → List (Turn Answer) → Prop}
    (hok : ∀ history, connectionEvents history = connectionEvents before ++ [.opened] →
      post (.ok (.ok ())) device history)
    (herror : ∀ failure history, Uneventful before history →
      post (.ok (.error failure)) device history) :
    Task.Ensures (recording fair) (connect credentials) device before post := by
  rw [Step.ensures_connect]
  rintro answer _ ⟨_, rfl⟩
  cases answer with
  | ok _ => exact hok _ (connectionEvents_snoc_of_some rfl)
  | error failure => exact herror failure _ (.snoc rfl rfl)

/-! ## Bringing the record up to date -/

theorem ensures_discardNewKeys_recording {kind : KeyKind}
    {post : Outcome Bool → Device → List (Turn Answer) → Prop}
    (hpost : ∀ discarded device history, Uneventful before history →
      post (.ok discarded) device history) :
    Task.Ensures (recording fair) (discardNewKeys kind) device before post := by
  exact Step.ensures_discardNewKeys.mpr fun _ history hclock =>
    hpost _ _ history (uneventful_clock hclock)

theorem ensures_discardUnconfirmed_recording :
    Task.Ensures (recording fair) discardUnconfirmed device before fun r _ history =>
      Updated before r history := by
  rw [discardUnconfirmed, Task.ensures_bind]
  refine ensures_now_recording fun now history hnow => ?_
  dsimp only
  rw [Task.ensures_bind, Step.ensures_get]
  dsimp only
  split
  · rw [Task.ensures_bind]
    refine ensures_discardNewKeys_recording fun authentication _ history hfirst => ?_
    dsimp only
    rw [Task.ensures_bind]
    refine ensures_discardNewKeys_recording fun encryption _ history hsecond => ?_
    have hall := (hnow.trans hfirst).trans hsecond
    dsimp only
    split
    · exact ensures_saveDevice_recording.imp fun _ _ _ => hall.trans_updated
    · exact Task.ensures_pure.mpr (hall.updated ())
  · exact Task.ensures_pure.mpr (hnow.updated ())

theorem ensures_promoteConfirmed_recording {recovery : Credentials}
    (h : recovery.BelongTo device) :
    Task.Ensures (recording fair) (promoteConfirmed recovery) device before fun r _ history =>
      Updated before r history := by
  rw [promoteConfirmed, Task.ensures_bind]
  refine ensures_now_recording fun now history hnow => ?_
  obtain ⟨hnodup, hnew⟩ := h.newKinds now
  dsimp only
  rw [Task.ensures_bind]
  refine (Step.ensures_promotions hnodup hnew).imp ?_
  rintro _ _ _ ⟨rfl, _, rfl⟩
  exact ensures_saveDevice_recording.imp fun _ _ _ => hnow.trans_updated

/-! ## Opening a session -/

/-- There is a connection that was opened after `before` if the session is open; if it is not, there
is one only if the record could not be stored. -/
def Opened (before : List (Turn Answer)) (r : Outcome OpenSession) (history : List (Turn Answer)) :
    Prop :=
  match r with
  | .ok _ => connectionEvents history = connectionEvents before ++ [.opened]
  | .error failure => Uneventful before history ∨
      connectionEvents history = connectionEvents before ++ [.opened] ∧
        unstored? history = some failure

theorem Uneventful.trans_opened {r : Outcome OpenSession} {later : List (Turn Answer)}
    (h : Uneventful before history) (hlater : Opened history r later) : Opened before r later := by
  cases r with
  | ok _ => exact hlater.trans (congrArg (· ++ [.opened]) h.events)
  | error failure =>
      exact hlater.imp h.trans fun ⟨hevents, hstored⟩ =>
        ⟨hevents.trans (congrArg (· ++ [.opened]) h.events), hstored⟩

/-- With a connection the session is open as soon as the record is up to date. -/
theorem ensures_opened_recording {step : Step Unit} {connected : List (Turn Answer)}
    (hconnected : connectionEvents connected = connectionEvents before ++ [.opened])
    (hstep : Task.Ensures (recording fair) step device connected fun r _ history =>
      Updated connected r history) :
    Task.Ensures (recording fair) (step >>= fun _ => opened : Step OpenSession) device connected
      fun r _ history => Opened before r history := by
  rw [Task.ensures_bind]
  refine hstep.imp ?_
  intro r d history hupdated
  have hevents := hupdated.events.trans hconnected
  cases r with
  | ok _ => exact Step.ensures_opened.mpr hevents
  | error failure => exact .inr ⟨hevents, hupdated.failed failure rfl⟩

theorem ensures_recover_recording {credentials : Credentials} {failure : Failure}
    (h : credentials.BelongTo device) :
    Task.Ensures (recording fair) (recover credentials failure) device before fun r _ history =>
      Opened before r history := by
  rw [recover, Task.ensures_bind, Step.ensures_recoveryCredentials?]
  intro first middle hfirst second history hsecond
  have hasked := (uneventful_clock hfirst).trans (uneventful_clock hsecond)
  dsimp only
  split
  · exact Step.ensures_throw.mpr (.inl hasked)
  · rename_i recovery hrecovery
    have hrecovery := h.withNew? hrecovery
    split
    · rw [Task.ensures_bind, Step.ensures_throw]
      exact .inl hasked
    · rw [Task.ensures_bind]
      refine ensures_connect_recording (fun history hconnected => ?_) fun _ history hlost => ?_
      · rw [hasked.events] at hconnected
        exact ensures_opened_recording hconnected (ensures_promoteConfirmed_recording hrecovery)
      · exact Step.ensures_throw.mpr (.inl (hasked.trans hlost))

theorem ensures_openSession_recording :
    Task.Ensures (recording fair) openSession device before fun r _ history =>
      Opened before r history := by
  rw [openSession, Task.ensures_bind]
  refine ensures_now_recording fun now history hnow => ?_
  dsimp only
  rw [Task.ensures_bind, Step.ensures_get]
  dsimp only
  rw [Task.ensures_bind, Step.ensures_lift]
  cases hvalid : Credentials.valid device now with
  | error failure => exact .inl hnow
  | ok credentials =>
      dsimp only
      rw [Task.ensures_bind]
      refine ensures_connect_recording (fun history hconnected => ?_) fun failure history hlost => ?_
      · rw [hnow.events] at hconnected
        exact ensures_opened_recording hconnected ensures_discardUnconfirmed_recording
      · refine (ensures_recover_recording (.of_valid hvalid)).imp fun r _ history hopened => ?_
        exact (hnow.trans hlost).trans_opened hopened

/-! ## Whole exchanges -/

variable {identification : String} {onFailure : Failure → α} {body : StateT Device Session α} {a : α}

/-- What has become of the connection when the lock of the device is given back. -/
theorem exists_events_of_withSession
    (hruns : Dialogue.Runs (recording fair) (withSession identification onFailure body) [] a
      history) :
    ∃ held, history = held ++ [⟨.release identification, ()⟩] ∧
      match unstored? held with
      | some failure => connectionEvents held = [.opened] ∧ a = onFailure failure
      | none => connectionEvents held = [] ∨ connectionEvents held = [.opened, .closed] := by
  cases runs_withSession_iff.mp hruns with
  | unloaded hacquire hload hrelease =>
      obtain ⟨_, rfl⟩ := hacquire
      obtain ⟨_, rfl⟩ := hload
      exact ⟨_, hrelease.2, .inl rfl⟩
  | unopened hacquire hload hopen hrelease =>
      obtain ⟨_, rfl⟩ := hacquire
      obtain ⟨_, rfl⟩ := hload
      refine ⟨_, hrelease.2, ?_⟩
      rcases ensures_openSession_recording _ _ hopen with huneventful | ⟨hevents, hstored⟩
      · rw [huneventful.stored]
        exact .inl huneventful.events
      · rw [hstored]
        exact ⟨hevents, rfl⟩
  | carried hacquire hload hopen hbody hclose hrelease =>
      obtain ⟨_, rfl⟩ := hacquire
      obtain ⟨_, rfl⟩ := hload
      have hopened := ensures_openSession_recording _ _ hopen
      have hcarried := (connectionEvents_of_runs_session hbody).trans hopened
      obtain ⟨_, rfl⟩ := hclose
      refine ⟨_, hrelease.2, ?_⟩
      -- Records that the body could not store come before the turn that closes the connection.
      rw [unstored?_snoc]
      refine .inr ((connectionEvents_snoc_of_some rfl).trans ?_)
      rw [hcarried]
      rfl

/-- The history ends with the failure to store a record and the end of the exchange. -/
def EndsUnstored (identification : String) (history : List (Turn Answer)) (failure : Failure) :
    Prop :=
  ∃ past record, history =
    past ++ [⟨.session (.save record), .error failure⟩, ⟨.release identification, ()⟩]

theorem endsUnstored_iff {held : List (Turn Answer)} {failure : Failure} :
    EndsUnstored identification (held ++ [⟨.release identification, ()⟩]) failure ↔
      unstored? held = some failure := by
  constructor
  · rintro ⟨past, record, h⟩
    have hlast : held ++ [⟨.release identification, ()⟩] =
        (past ++ [⟨.session (.save record), .error failure⟩]) ++
          [⟨.release identification, ()⟩] := by
      rw [h, List.append_assoc]
      rfl
    obtain rfl := List.append_cancel_right hlast
    exact unstored?_snoc
  · intro h
    obtain ⟨past, record, rfl⟩ := exists_turn_of_unstored? h
    exact ⟨past, record, by rw [List.append_assoc]; rfl⟩

/-- There was no connection, or there was one, which is closed, unless a record that could not be
stored is the last thing before the end: then the connection is open, and this failure is what
the exchange ends with. -/
structure Closes (identification : String) (onFailure : Failure → α) (a : α)
    (history : List (Turn Answer)) : Prop where
  closed : (¬ ∃ failure, EndsUnstored identification history failure) →
    connectionEvents history = [] ∨ connectionEvents history = [.opened, .closed]
  leftOpen : ∀ failure, EndsUnstored identification history failure →
    connectionEvents history = [.opened] ∧ a = onFailure failure

theorem closes_withSession
    (hruns : Dialogue.Runs (recording fair) (withSession identification onFailure body) [] a
      history) :
    Closes identification onFailure a history := by
  obtain ⟨held, rfl, hheld⟩ := exists_events_of_withSession hruns
  have hevents : connectionEvents (held ++ [⟨.release identification, ()⟩]) =
      connectionEvents held := connectionEvents_snoc_of_none rfl
  constructor
  · intro hstored
    cases hunstored : unstored? held with
    | some failure => exact absurd ⟨failure, endsUnstored_iff.mpr hunstored⟩ hstored
    | none =>
        rw [hunstored] at hheld
        rw [hevents]
        exact hheld
  · intro failure hfailure
    rw [endsUnstored_iff.mp hfailure] at hheld
    rw [hevents]
    exact hheld

/-- An exchange over a bundle or an operation connects once at most. It closes the connection before
it is over, unless a record could not be stored while the session was being opened. -/
theorem connections_closed_unless_unstored (registry : Registry) (settings : Settings)
    (identification : String) (bundle : Bundle) (operation : Operation α) :
    (∀ a history, Dialogue.Runs (recording fun _ => True)
      (handleBundle registry settings identification bundle) [] a history →
      Closes identification (fun failure => (bundle, .error failure)) a history) ∧
    ∀ a history, Dialogue.Runs (recording fun _ => True)
      (handleOperation identification operation) [] a history →
      Closes identification .error a history :=
  ⟨fun _ _ hruns => closes_withSession hruns, fun _ _ hruns => closes_withSession hruns⟩

/-- The answers of a world in which nothing goes wrong but that records may not be stored. -/
def answersWith (device : Device) (stores : Bool) : (question : Question) → Answer question
  | .session (.save device) =>
    if stores then .ok device else .error (.configuration (.stated "save failed"))
  | .session question => obligingAnswer question
  | .acquire _ => ()
  | .release _ => ()
  | .load _ => .ok device
  | .connect _ _ => .ok ()
  | .close => .ok ()

/-- A device with an encryption key that the meter has not confirmed. -/
def unconfirmedDevice : Device :=
  keyedDevice.addNewKey .encryption (Hex.text (List.replicate 16 4)) ⟨0, 0⟩

/-- The exchange that activates the passive calendar, with its history. -/
def activation (stores : Bool) : Outcome Unit × List (Turn Answer) :=
  (handleOperation "meter" ActivityCalendar.activate).run (fun question past =>
    (answersWith unconfirmedDevice stores question,
      past ++ [⟨question, answersWith unconfirmedDevice stores question⟩])) []

theorem runs_activation (stores : Bool) :
    Dialogue.Runs (recording fun _ => True) (handleOperation "meter" ActivityCalendar.activate) []
      (activation stores).1 (activation stores).2 :=
  Dialogue.runs_recorded (fun _ => trivial) _ []

theorem connections_closed_unless_unstored_of_activation :
    (connectionEvents (activation true).2 = [.opened, .closed] ∧
      Closes "meter" .error (activation true).1 (activation true).2) ∧
    EndsUnstored "meter" (activation false).2 (.configuration (.stated "save failed")) ∧
      connectionEvents (activation false).2 = [.opened] := by
  have hunstored : EndsUnstored "meter" (activation false).2
      (.configuration (.stated "save failed")) :=
    ⟨(activation false).2.dropLast.dropLast, _, rfl⟩
  have hcloses := (connections_closed_unless_unstored ⟨[]⟩ {} "meter" ⟨[]⟩
    ActivityCalendar.activate).2
  exact ⟨⟨rfl, hcloses _ _ (runs_activation true)⟩, hunstored,
    ((hcloses _ _ (runs_activation false)).leftOpen _ hunstored).1⟩

/-- A connection stays open if unconfirmed keys are discarded and the record cannot be stored. -/
theorem not_connections_closed_of_unstored :
    ¬ ∀ identification (operation : Operation Unit) a history,
      Dialogue.Runs (recording fun _ => True) (handleOperation identification operation) [] a
        history →
      (connectionEvents history).count .closed = (connectionEvents history).count .opened := by
  intro hclaim
  have hcount := hclaim _ _ _ _ (runs_activation false)
  have hevents : connectionEvents (activation false).2 = [.opened] := rfl
  rw [hevents] at hcount
  cases hcount

end Exchange

end HeadEnd
