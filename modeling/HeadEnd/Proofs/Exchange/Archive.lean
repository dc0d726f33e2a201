import HeadEnd.Proofs.Exchange.Service
import HeadEnd.Proofs.Key.Staging
import HeadEnd.Proofs.Key.Timeline

/-! # Archives

Every record that was ever stored of a device. Whatever is done with the device, each of them has
its keys in a row, and each later one continues the earlier ones.
-/

namespace HeadEnd

/-- The records of a device, each with the time at which it was stored. -/
structure Archive where
  /-- The latest reading of the clock. -/
  clock : Instant
  stored : Device
  saves : List (Instant × Device)

namespace Archive

def saving (s : Archive) (device : Device) : Archive :=
  { s with stored := device, saves := s.saves ++ [(s.clock, device)] }

/-- What may happen during a session. A record that cannot be stored may have been stored all the
same; meters may answer anything. -/
def sessions : Rules Answer Archive
  | .clock, s, now, t => s.clock ≤ now ∧ t = { s with clock := now }
  | .save device, s, answer, t =>
    (answer = .ok device ∧ t = s.saving device) ∨
      ∃ failure, answer = .error failure ∧ (t = s ∨ t = s.saving device)
  | _, s, _, t => t = s

/-- What may happen during an exchange. -/
def exchanges : Rules Exchange.Answer Archive
  | .session question, s, answer, t => sessions question s answer t
  | .load _, s, answer, t =>
    t = s ∧ (answer = .ok s.stored ∨ ∃ failure, answer = .error failure)
  | _, s, _, t => t = s

/-! ## Archives that are in order -/

/-- Every record has its keys in a row, and goes on from those before it. -/
structure IsOrdered (s : Archive) : Prop where
  timeline : ∀ save ∈ s.saves, save.2.HasTimeline save.1
  ages : s.saves.Pairwise fun earlier later => earlier.2.Ages later.2
  timeline_stored : s.stored.HasTimeline s.clock
  ages_stored : ∀ save ∈ s.saves, save.2.Ages s.stored

/-- The archive is in order, and the record in hand goes on from the one that is stored. -/
structure Fits (device : Device) (s : Archive) : Prop where
  ordered : s.IsOrdered
  timeline : device.HasTimeline s.clock
  ages : s.stored.Ages device

variable {device later : Device} {s t : Archive} {now : Instant}

theorem IsOrdered.fits (h : s.IsOrdered) : Fits s.stored s :=
  ⟨h, h.timeline_stored, .refl s.stored⟩

theorem IsOrdered.read (h : s.IsOrdered) (hnow : s.clock ≤ now) :
    IsOrdered { s with clock := now } :=
  { h with timeline_stored := h.timeline_stored.mono hnow }

theorem Fits.read (h : Fits device s) (hnow : s.clock ≤ now) :
    Fits device { s with clock := now } :=
  ⟨h.ordered.read hnow, h.timeline.mono hnow, h.ages⟩

theorem Fits.change (h : Fits device s) (htimeline : later.HasTimeline s.clock)
    (hages : device.Ages later) : Fits later s :=
  ⟨h.ordered, htimeline, h.ages.trans hages⟩

theorem Fits.saving (h : Fits device s) : Fits device (s.saving device) := by
  refine ⟨⟨?_, ?_, h.timeline, ?_⟩, h.timeline, .refl device⟩
  · intro save hsave
    rcases List.mem_append.mp hsave with hsave | hsave
    · exact h.ordered.timeline save hsave
    · rw [List.mem_singleton.mp hsave]
      exact h.timeline
  · refine List.pairwise_append.mpr ⟨h.ordered.ages, List.pairwise_singleton .., ?_⟩
    intro earlier hearlier save hsave
    rw [List.mem_singleton.mp hsave]
    exact (h.ordered.ages_stored earlier hearlier).trans h.ages
  · intro save hsave
    rcases List.mem_append.mp hsave with hsave | hsave
    · exact (h.ordered.ages_stored save hsave).trans h.ages
    · rw [List.mem_singleton.mp hsave]
      exact .refl device

/-- The record that is stored is the one that was to be stored. -/
theorem Fits.of_save {answer : Outcome Device} (h : Fits device s)
    (hsave : sessions (.save device) s answer t) :
    Fits device t ∧ ∀ stored, answer = .ok stored → Fits stored t := by
  rcases hsave with ⟨rfl, rfl⟩ | ⟨failure, rfl, rfl | rfl⟩
  · refine ⟨h.saving, fun stored hstored => ?_⟩
    cases hstored
    exact h.saving
  · exact ⟨h, fun stored hstored => by cases hstored⟩
  · exact ⟨h.saving, fun stored hstored => by cases hstored⟩

end Archive

/-! ## Steps -/

open Archive

namespace Operation

variable {α : Type} {device : Device} {s : Archive}

theorem maintains_lift (outcome : Outcome α) :
    Task.Maintains sessions Fits (liftM outcome : Operation α) :=
  fun _ _ h => ensures_lift.mpr h

theorem maintains_describe (text : String) : Task.Maintains sessions Fits (describe text) := by
  intro device s h
  rw [ensures_describe]
  rintro t rfl
  exact h

theorem maintains_callMethod (method : MethodCall) :
    Task.Maintains sessions Fits (callMethod method) := by
  intro device s h
  rw [ensures_callMethod]
  rintro answer t rfl
  exact h

theorem maintains_decrypt (data : List UInt8) : Task.Maintains sessions Fits (decrypt data) := by
  intro device s h
  rw [ensures_decrypt]
  rintro answer t rfl
  exact h

theorem maintains_adoptKey (kind : KeyKind) (key : List UInt8) :
    Task.Maintains sessions Fits (adoptKey kind key) := by
  intro device s h
  rw [ensures_adoptKey]
  rintro answer t rfl
  exact h

theorem maintains_now : Task.Maintains sessions Fits now := by
  intro device s h
  rw [ensures_now]
  rintro now t ⟨hnow, rfl⟩
  exact h.read hnow

theorem maintains_saveDevice : Task.Maintains sessions Fits saveDevice := by
  intro device s h
  rw [ensures_saveDevice]
  intro answer t hsave
  obtain ⟨hfits, hstored⟩ := h.of_save hsave
  cases answer with
  | ok stored => exact hstored stored rfl
  | error failure => exact hfits

end Operation

namespace KeyChange

open Operation

theorem maintains_stage (change : KeyChange) : Task.Maintains sessions Fits change.stage := by
  intro device s h
  rw [ensures_stage]
  rintro now t ⟨hnow, rfl⟩ answer u hsave
  have hread := h.read hnow
  have hadded : Fits (device.addNewKey change.kind (Hex.text change.material) now)
      { s with clock := now } :=
    hread.change hread.timeline.addNewKey Device.ages_addNewKey
  obtain ⟨hfits, hstored⟩ := hadded.of_save hsave
  cases answer with
  | ok stored => exact hstored stored rfl
  | error failure => exact hfits

theorem maintains_confirm (kind : KeyKind) : Task.Maintains sessions Fits (confirm kind) := by
  intro device s h
  rw [ensures_confirm]
  rintro now t ⟨hnow, rfl⟩
  have hread := h.read hnow
  cases hpromoted : device.promoteNewKey kind now with
  | error fault => exact hread
  | ok promoted =>
      intro answer u hsave
      have hchanged : Fits promoted { s with clock := now } :=
        hread.change (hread.timeline.promoteNewKey hpromoted)
          (hread.timeline.ages_promoteNewKey hpromoted)
      obtain ⟨hfits, hstored⟩ := hchanged.of_save hsave
      cases answer with
      | ok stored => exact hstored stored rfl
      | error failure => exact hfits

theorem maintains_decryptStored (key : SecurityKey) :
    Task.Maintains sessions Fits (decryptStored key) := by
  unfold decryptStored
  split
  · exact maintains_decrypt _
  · exact Task.maintains_throw _

theorem maintains_deliver (change : KeyChange) (role : KeyRole) (master : SecurityKey) :
    Task.Maintains sessions Fits (change.deliver role master) := by
  refine (maintains_decryptStored master).bind fun masterKey => ?_
  refine (maintains_decrypt _).bind fun newKey => ?_
  refine (maintains_lift _).bind fun wrapped => ?_
  refine (maintains_describe _).bind fun _ => ?_
  refine (maintains_callMethod _).bind fun result => ?_
  exact (maintains_lift _).bind fun _ => Task.maintains_pure _

theorem maintains_execute (change : KeyChange) :
    Task.Maintains sessions Fits change.execute := by
  rw [execute_eq]
  refine (maintains_lift _).bind fun role => ?_
  refine maintains_now.bind fun now => ?_
  refine Task.maintains_get.bind fun device => ?_
  refine (maintains_lift _).bind fun master => ?_
  refine Task.maintains_get.bind fun device => ?_
  refine (maintains_lift _).bind fun _ => ?_
  refine change.maintains_stage.bind fun _ => ?_
  refine (change.maintains_deliver role master).bind fun newKey => ?_
  exact (maintains_adoptKey _ _).bind fun _ => maintains_confirm _

end KeyChange

theorem KeyPair.maintains_execute (keys : KeyPair) :
    Task.Maintains sessions Fits keys.execute := by
  refine (KeyChange.maintains_execute _).bind fun _ => ?_
  refine (KeyChange.maintains_execute _).bind fun _ => ?_
  exact Task.maintains_get.bind fun device => Task.maintains_pure _

/-! ## Opening a session -/

namespace Exchange

variable {α : Type} {device : Device} {s : Archive}

theorem Step.maintains_ofOperation {operation : Operation α}
    (h : Task.Maintains sessions Fits operation) :
    Task.Maintains exchanges Fits (liftM operation : Step α) := by
  intro device s hfits
  rw [Step.ensures_ofOperation]
  exact h device s hfits

theorem maintains_now : Task.Maintains exchanges Fits (liftM Operation.now : Step Instant) :=
  Step.maintains_ofOperation Operation.maintains_now

theorem maintains_saveDevice :
    Task.Maintains exchanges Fits (liftM Operation.saveDevice : Step Unit) :=
  Step.maintains_ofOperation Operation.maintains_saveDevice

theorem maintains_connect (credentials : Credentials) :
    Task.Maintains exchanges Fits (connect credentials) := by
  intro device s h
  refine Step.ensures_connect.mpr fun answer t hrules => ?_
  obtain rfl : t = s := hrules
  exact h

theorem maintains_opened : Task.Maintains exchanges Fits opened :=
  Task.maintains_get.bind fun _ => Task.maintains_pure _

/-- Keys are discarded at the time that the clock has just told. -/
theorem maintains_discardNewKeys (kind : KeyKind) :
    Task.Maintains exchanges Fits (discardNewKeys kind) := by
  intro device s h
  rw [Step.ensures_discardNewKeys]
  rintro now t ⟨hnow, rfl⟩
  have hread := h.read hnow
  exact hread.change hread.timeline.discardNewKeys Device.ages_discardNewKeys

theorem maintains_discardUnconfirmed : Task.Maintains exchanges Fits discardUnconfirmed := by
  refine maintains_now.bind fun now => Task.maintains_get.bind fun device => ?_
  split
  · refine (maintains_discardNewKeys _).bind fun authentication => ?_
    refine (maintains_discardNewKeys _).bind fun encryption => ?_
    split
    · exact maintains_saveDevice
    · exact Task.maintains_pure _
  · exact Task.maintains_pure _

/-- Any number of promotions at the time that the clock tells. -/
theorem ensures_promotions (h : Fits device s) (kinds : List KeyKind) :
    Task.Ensures exchanges (kinds.forM (promote s.clock)) device s fun _ d t => Fits d t := by
  induction kinds generalizing device with
  | nil => exact Task.ensures_pure.mpr h
  | cons kind kinds ih =>
      rw [List.forM, Task.ensures_bind, promote, Task.ensures_bind, Step.ensures_get]
      dsimp only
      cases hpromoted : device.promoteNewKey kind s.clock with
      | error fault => exact Step.ensures_throw.mpr h
      | ok promoted =>
          refine Step.ensures_set.mpr (ih (h.change ?_ ?_))
          · exact h.timeline.promoteNewKey hpromoted
          · exact h.timeline.ages_promoteNewKey hpromoted

theorem maintains_promoteConfirmed (recovery : Credentials) :
    Task.Maintains exchanges Fits (promoteConfirmed recovery) := by
  intro device s h
  rw [promoteConfirmed, Task.ensures_bind, Step.ensures_now]
  rintro now t ⟨hnow, rfl⟩
  dsimp only
  rw [Task.ensures_bind]
  refine (ensures_promotions (h.read hnow) _).imp fun r d t hfits => ?_
  cases r with
  | ok _ => exact maintains_saveDevice d t hfits
  | error _ => exact hfits

theorem maintains_recover (credentials : Credentials) (failure : Failure) :
    Task.Maintains exchanges Fits (recover credentials failure) := by
  have hrecovery : Task.Maintains exchanges Fits (recoveryCredentials? credentials) := by
    refine maintains_now.bind fun _ => Task.maintains_get.bind fun _ => ?_
    refine maintains_now.bind fun _ => Task.maintains_get.bind fun _ => ?_
    exact Task.maintains_pure _
  refine hrecovery.bind fun recovery? => ?_
  cases recovery? with
  | none => exact Task.maintains_throw failure
  | some recovery =>
      have hretry {next : Outcome Unit → Step OpenSession}
          (hok : next (.ok ()) = do
            promoteConfirmed recovery
            opened)
          (herror : ∀ failure', next (.error failure') = throw failure) :
          Task.Maintains exchanges Fits (connect recovery >>= next) := by
        refine (maintains_connect recovery).bind fun connected => ?_
        cases connected with
        | error failure' =>
            rw [herror failure']
            exact Task.maintains_throw failure
        | ok _ =>
            rw [hok]
            exact (maintains_promoteConfirmed recovery).bind fun _ => maintains_opened
      dsimp only
      split
      · exact (Task.maintains_throw failure).bind fun _ => hretry rfl fun _ => rfl
      · exact hretry rfl fun _ => rfl

theorem maintains_openSession : Task.Maintains exchanges Fits openSession := by
  refine maintains_now.bind fun now => Task.maintains_get.bind fun device => ?_
  have hvalid : Task.Maintains exchanges Fits
      (liftM (Credentials.valid device now) : Step Credentials) :=
    fun _ _ h => Step.ensures_lift.mpr h
  refine hvalid.bind fun credentials => ?_
  refine (maintains_connect credentials).bind fun connected => ?_
  cases connected with
  | ok _ => exact maintains_discardUnconfirmed.bind fun _ => maintains_opened
  | error failure => exact maintains_recover credentials failure

end Exchange

/-! ## Runs of any length -/

namespace Archive

open Exchange

/-- What is known of a device before anything is done with it. -/
def started (now : Instant) (record : Device) : Archive :=
  ⟨now, record, [(now, record)]⟩

/-- The record in hand and the archive, after any number of calls that succeed or fail. The calls go
on with the record that the last one left, or with the one that is stored. -/
inductive Reaches (identification : String) (origin : Archive) : Device → Archive → Prop where
  | start : Reaches identification origin origin.stored origin
  | load {device s} : Reaches identification origin device s →
      Reaches identification origin s.stored s
  | openSession {device s r later t} : Reaches identification origin device s →
      Dialogue.Runs exchanges (Exchange.openSession.run.run device) s (r, later) t →
      Reaches identification origin later t
  | replaceKey {device s r later t} (change : KeyChange) : Reaches identification origin device s →
      Dialogue.Runs sessions (change.execute.run.run device) s (r, later) t →
      Reaches identification origin later t
  | setKeys {device s r later t} (keys : KeyPair) : Reaches identification origin device s →
      Dialogue.Runs sessions (keys.execute.run.run device) s (r, later) t →
      Reaches identification origin later t
  | setDebugMode {device s r t} (enabled : Bool) : Reaches identification origin device s →
      Dialogue.Runs exchanges (Exchange.setDebugMode identification enabled) s r t →
      Reaches identification origin device t

variable {identification : String} {device later : Device} {s t : Archive} {record : Device}
  {now : Instant}

/-- A record with the keys of the one that is stored may take its place. -/
theorem Fits.saving_of_keys (h : Fits device s) (hkeys : record.keys = s.stored.keys) :
    Fits device (s.saving record) := by
  have hrecord : Fits record s := by
    refine ⟨h.ordered, ?_, Device.ages_of_filter_eq (by rw [hkeys])⟩
    have htimeline := h.ordered.timeline_stored
    unfold Device.HasTimeline at *
    rwa [hkeys]
  refine ⟨hrecord.saving.ordered, h.timeline, ?_⟩
  have hages : record.Ages s.stored := Device.ages_of_filter_eq (by rw [hkeys])
  exact hages.trans h.ages

theorem Fits.setDebugMode {enabled : Bool} {r : Outcome Device} (h : Fits device s)
    (hruns : Dialogue.Runs exchanges (setDebugMode identification enabled) s r t) :
    Fits device t := by
  obtain ⟨u, v, hacquire, hrest, hrelease⟩ := runs_locked_iff.mp hruns
  obtain rfl : u = s := hacquire
  obtain rfl : t = v := hrelease
  obtain ⟨loaded, w, hload, hrest⟩ := Dialogue.runs_bind_iff.mp hrest
  obtain ⟨rfl, hloaded⟩ := runs_question_iff.mp hload
  rcases hloaded with rfl | ⟨failure, rfl⟩
  · -- What is stored differs from what was loaded in nothing that concerns the keys.
    rcases runs_question_iff.mp hrest with ⟨-, rfl⟩ | ⟨failure, -, rfl | rfl⟩
    · exact h.saving_of_keys rfl
    · exact h
    · exact h.saving_of_keys rfl
  · obtain ⟨-, rfl⟩ := Dialogue.runs_done_iff.mp hrest
    exact h

theorem fits_started (h : record.HasTimeline now) : Fits record (started now record) := by
  have hsave : ∀ save ∈ (started now record).saves, save = (now, record) :=
    fun save => List.mem_singleton.mp
  refine ⟨⟨?_, List.pairwise_singleton .., h, ?_⟩, h, .refl record⟩
  · intro save hmem
    rw [hsave save hmem]
    exact h
  · intro save hmem
    rw [hsave save hmem]
    exact .refl record

theorem Reaches.fits (h : record.HasTimeline now)
    (hreaches : Reaches identification (started now record) device s) : Fits device s := by
  induction hreaches with
  | start => exact fits_started h
  | load _ ih => exact ih.ordered.fits
  | openSession _ hruns ih => exact maintains_openSession _ _ ih _ _ hruns
  | replaceKey change _ hruns ih => exact change.maintains_execute _ _ ih _ _ hruns
  | setKeys keys _ hruns ih => exact keys.maintains_execute _ _ ih _ _ hruns
  | setDebugMode enabled _ hruns ih => exact ih.setDebugMode hruns

/-- Whatever is done with a device: in every record of it that is stored the keys of each kind follow
each other, so that exactly one is in use from then on and at most one waits to be confirmed; and no
later record lacks a key that was in use, or differs in it but for an end that had not been set. -/
theorem saves_keep_history (h : record.HasTimeline now)
    (hreaches : Reaches identification (started now record) device s) :
    (∀ save ∈ s.saves, save.2.HasTimeline save.1 ∧ ∀ kind t, save.1 ≤ t →
      (∃ key, save.2.keysIn kind .valid t = [key]) ∧
        (save.2.keysIn kind .new t).length ≤ 1) ∧
    s.saves.Pairwise fun earlier later => earlier.2.Ages later.2 := by
  have hordered := (hreaches.fits h).ordered
  refine ⟨fun save hsave => ?_, hordered.ages⟩
  have htimeline := hordered.timeline save hsave
  exact ⟨htimeline, fun kind t ht => htimeline.keysIn kind ht⟩

/-- A world in which nothing goes wrong, which keeps every record, and in which a second goes by
whenever the clock is read. -/
def obligingWorld : (question : Question) → Archive → Answer question × Archive
  | .clock, s =>
    let now : Instant := { s.clock with seconds := s.clock.seconds + 1 }
    (now, { s with clock := now })
  | .save device, s => (.ok device, s.saving device)
  | question, s => (obligingAnswer question, s)

theorem sessions_of_obligingWorld (question : Question) (s : Archive) (answer : Answer question)
    (t : Archive) (h : obligingWorld question s = (answer, t)) : sessions question s answer t := by
  cases question <;> obtain ⟨rfl, rfl⟩ := Prod.mk.inj h
  case clock => exact ⟨.inl (Int.lt_succ _), rfl⟩
  case save => exact .inl ⟨rfl, rfl⟩
  all_goals rfl

theorem hasTimeline_keyedDevice : keyedDevice.HasTimeline ⟨0, 0⟩ := by
  intro kind
  have hdated : ∃ material, Device.keysOf kind true keyedDevice.keys =
      [⟨kind, material, some ⟨0, 0⟩, none⟩] := by
    cases kind <;> exact ⟨_, rfl⟩
  have hundated : Device.keysOf kind false keyedDevice.keys = [] := by
    cases kind <;> rfl
  obtain ⟨material, hdated⟩ := hdated
  constructor
  · rw [hdated]
    exact List.pairwise_singleton ..
  · rw [hdated]
    intro key hkey
    rw [List.mem_singleton.mp hkey]
    rfl
  · rw [hdated]
    rfl
  · rw [hundated]
    exact Nat.zero_le 1
  · rw [hundated]
    exact fun key hkey => absurd hkey List.not_mem_nil

theorem saves_keep_history_of_replaceKey : ∃ device s,
    Reaches "meter" (started ⟨0, 0⟩ keyedDevice) device s ∧ s.saves.length = 3 ∧
      (∀ save ∈ s.saves, save.2.HasTimeline save.1 ∧ ∀ kind t, save.1 ≤ t →
        (∃ key, save.2.keysIn kind .valid t = [key]) ∧
          (save.2.keysIn kind .new t).length ≤ 1) ∧
      s.saves.Pairwise fun earlier later => earlier.2.Ages later.2 := by
  obtain ⟨device, s, hrun, hlength⟩ : ∃ device s,
      ((KeyChange.execute ⟨.encryption, List.replicate 16 5⟩).run.run keyedDevice).run obligingWorld
        (started ⟨0, 0⟩ keyedDevice) = ((.ok (), device), s) ∧ s.saves.length = 3 :=
    ⟨_, _, rfl, rfl⟩
  have hruns := ((Dialogue.runs_iff_run_eq _).mpr hrun).mono sessions_of_obligingWorld
  have hreaches : Reaches "meter" (started ⟨0, 0⟩ keyedDevice) device s :=
    .replaceKey _ .start hruns
  exact ⟨device, s, hreaches, hlength, saves_keep_history hasTimeline_keyedDevice hreaches⟩

end Archive

end HeadEnd
