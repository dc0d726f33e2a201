import HeadEnd.Proofs.Exchange.Site

/-! # What opening a session ensures

Whatever goes wrong, a session is only opened with the keys that the meter uses, and then the record
tells which keys these are. The record that is stored is always the old one or one that is right.
-/

namespace HeadEnd.Exchange

open Site

variable {decrypt : List UInt8 → Option (List UInt8)} {period : Instant → Prop}
  {rules : Rules Answer Site} {device : Device} {s t : Site}

/-! ## Questions -/

theorem later_of_clock (h : Follows decrypt period rules) {now : Instant}
    (hrules : rules (.session .clock) s now t) :
    s.Later period now ∧ t = { s with clock := now } := by
  obtain ⟨hle, rfl⟩ := h.answers _ _ _ _ hrules
  exact ⟨⟨h.clock _ _ _ hrules, hle⟩, rfl⟩

theorem ensures_now (h : Follows decrypt period rules)
    {post : Outcome Instant → Device → Site → Prop}
    (hpost : ∀ now, s.Later period now → post (.ok now) device { s with clock := now }) :
    Task.Ensures rules (liftM Operation.now : Step Instant) device s post := by
  refine Step.ensures_now.mpr fun now t hrules => ?_
  obtain ⟨hlater, rfl⟩ := later_of_clock h hrules
  exact hpost now hlater

theorem ensures_saveDevice (h : Follows decrypt period rules)
    {post : Outcome Unit → Device → Site → Prop}
    (hok : post (.ok ()) device { s with stored := device })
    (herror : SaveFails rules → ∀ failure t, t = s ∨ t = { s with stored := device } →
      post (.error failure) device t) :
    Task.Ensures rules (liftM Operation.saveDevice : Step Unit) device s post := by
  refine Step.ensures_saveDevice.mpr fun answer t hrules => ?_
  rcases h.answers _ _ _ _ hrules with ⟨rfl, rfl⟩ | ⟨failure, rfl, ht⟩
  · exact hok
  · exact herror ⟨s, device, failure, t, hrules⟩ failure t ht

theorem ensures_connect (h : Follows decrypt period rules) {credentials : Credentials}
    {post : Outcome (Outcome Unit) → Device → Site → Prop}
    (hok : s.Accepts decrypt credentials → post (.ok (.ok ())) device s)
    (herror : Refuses rules s credentials → ∀ failure, failure.isConnectionLoss = true →
      post (.ok (.error failure)) device s) :
    Task.Ensures rules (connect credentials) device s post := by
  refine Step.ensures_connect.mpr fun answer t hrules => ?_
  obtain ⟨rfl, ⟨rfl, haccepts⟩ | ⟨failure, rfl, hloss⟩⟩ := h.answers _ _ _ _ hrules
  · exact hok haccepts
  · exact herror ⟨t, device, failure, t, rfl, hrules⟩ failure hloss

/-! ## Bringing the record up to date -/

/-- How bringing the record up to date may end: the record that is stored is the old or the new one,
and the new one unless it may be that records cannot be stored. -/
inductive Stores (rules : Rules Answer Site) (device updated : Device) (s : Site) {α : Type} :
    Outcome α → Device → Site → Prop where
  | unchanged {a t} : updated = device → t.stored = s.stored →
      Stores rules device updated s (.ok a) device t
  | stored {a t} : t.stored = updated → Stores rules device updated s (.ok a) updated t
  | failed {failure t} : SaveFails rules → t.stored = s.stored ∨ t.stored = updated →
      Stores rules device updated s (.error failure) updated t

theorem ensures_discardNewKeys (h : Follows decrypt period rules) {kind : KeyKind}
    {post : Outcome Bool → Device → Site → Prop}
    (hpost : ∀ now, s.Later period now →
      post (.ok (decide ((device.discardNewKeys kind now).keys.length < device.keys.length)))
        (device.discardNewKeys kind now) { s with clock := now }) :
    Task.Ensures rules (discardNewKeys kind) device s post := by
  refine Step.ensures_discardNewKeys.mpr fun now t hrules => ?_
  obtain ⟨hlater, rfl⟩ := later_of_clock h hrules
  exact hpost now hlater

theorem ensures_discardUnconfirmed (h : Follows decrypt period rules) :
    Task.Ensures rules discardUnconfirmed device s fun r d t => s.Onward t ∧
      ∃ first second, s.Later period first ∧ s.Later period second ∧
        Stores rules device
          ((device.discardNewKeys .authentication first).discardNewKeys .encryption second)
          s r d t := by
  rw [discardUnconfirmed, Task.ensures_bind]
  refine ensures_now h fun now hnow => ?_
  have hnowOnward : s.Onward { s with clock := now } := ⟨rfl, hnow.2⟩
  dsimp only
  rw [Task.ensures_bind, Step.ensures_get]
  dsimp only
  split
  · rw [Task.ensures_bind]
    refine ensures_discardNewKeys h fun first hfirst => ?_
    dsimp only
    rw [Task.ensures_bind]
    refine ensures_discardNewKeys h fun second hsecond => ?_
    have honward : s.Onward { s with clock := second } :=
      ⟨rfl, Instant.le_trans hnow.2 (Instant.le_trans hfirst.2 hsecond.2)⟩
    have hlater : s.Later period first ∧ s.Later period second :=
      ⟨⟨hfirst.1, Instant.le_trans hnow.2 hfirst.2⟩, ⟨hsecond.1, honward.clock⟩⟩
    dsimp only
    split
    · refine ensures_saveDevice h ?_ ?_
      · exact ⟨⟨honward.meter, honward.clock⟩, first, second, hlater.1, hlater.2, .stored rfl⟩
      · intro hfails failure t ht
        refine ⟨?_, first, second, hlater.1, hlater.2, .failed hfails ?_⟩
        · rcases ht with rfl | rfl
          · exact honward
          · exact ⟨honward.meter, honward.clock⟩
        · rcases ht with rfl | rfl
          · exact .inl rfl
          · exact .inr rfl
    · rename_i hnone
      rw [Task.ensures_pure]
      simp only [Bool.or_eq_true, decide_eq_true_eq, not_or] at hnone
      have hsame : (device.discardNewKeys .authentication first).discardNewKeys .encryption second =
          device := by
        rw [Device.discardNewKeys_eq_self_of_length hnone.2,
          Device.discardNewKeys_eq_self_of_length hnone.1]
      refine ⟨honward, first, second, hlater.1, hlater.2, ?_⟩
      rw [hsame]
      exact .unchanged rfl rfl
  · rename_i hnone
    rw [Task.ensures_pure]
    have hnone' : device.hasNewKeys now = false := by simpa using hnone
    refine ⟨hnowOnward, now, now, hnow, hnow, .unchanged ?_ rfl⟩
    rw [Device.discardNewKeys_eq_self_of_hasNewKeys hnone',
      Device.discardNewKeys_eq_self_of_hasNewKeys hnone']

/-- Each kind of which the unconfirmed key is to be promoted ends up with that key in use. -/
theorem ensures_promoteAll {now : Instant} {span : Instant → Prop} (hnow : span now)
    {valid : KeyKind → SecurityKey} {new : KeyKind → Option SecurityKey} {kinds : List KeyKind}
    (hnodup : kinds.Nodup) (hkinds : ∀ kind ∈ kinds, (new kind).isSome = true ∧
      device.Holds kind (valid kind) (new kind) span) :
    Task.Ensures rules (kinds.forM (promote now)) device s fun r d t => r = .ok () ∧ t = s ∧
      (∀ kind ∈ kinds, ∃ key, new kind = some key ∧
        d.Holds kind (key.begunAt now) none fun t => span t ∧ now ≤ t) ∧
      ∀ kind, kind ∉ kinds → ∀ v n span', device.Holds kind v n span' → d.Holds kind v n span' := by
  induction kinds generalizing device with
  | nil =>
      rw [List.forM, Task.ensures_pure]
      exact ⟨rfl, rfl, by simp, fun _ _ _ _ _ h => h⟩
  | cons kind kinds ih =>
      obtain ⟨hkind, hnodup⟩ := List.nodup_cons.mp hnodup
      obtain ⟨hsome, hholds⟩ := hkinds kind List.mem_cons_self
      obtain ⟨key, hkey⟩ := Option.isSome_iff_exists.mp hsome
      rw [hkey] at hholds
      obtain ⟨promoted, hpromoted, hbegun⟩ := hholds.promoteNewKey hnow
      -- The kinds differ, so this promotion leaves those that remain as they were.
      have hothers : ∀ j, j ≠ kind → ∀ v n span', device.Holds j v n span' →
          promoted.Holds j v n span' :=
        fun j hj v n span' h => h.promoteNewKey_of_ne hj hpromoted
      have hrest : ∀ j ∈ kinds, (new j).isSome = true ∧
          promoted.Holds j (valid j) (new j) span := by
        intro j hj
        obtain ⟨hjSome, hjHolds⟩ := hkinds j (List.mem_cons_of_mem kind hj)
        refine ⟨hjSome, hothers j ?_ _ _ _ hjHolds⟩
        rintro rfl
        exact hkind hj
      rw [List.forM, Task.ensures_bind, promote, Task.ensures_bind, Step.ensures_get]
      dsimp only
      rw [hpromoted, Step.ensures_set]
      dsimp only
      refine (ih hnodup hrest).imp ?_
      rintro r d t ⟨hr, ht, hin, hout⟩
      refine ⟨hr, ht, ?_, ?_⟩
      · intro j hj
        rcases List.mem_cons.mp hj with rfl | hj
        · exact ⟨key, hkey, hout j hkind _ _ _ hbegun⟩
        · exact hin j hj
      · intro j hj v n span' h
        rw [List.mem_cons, not_or] at hj
        exact hout j hj.2 v n span' (hothers j hj.1 v n span' h)

/-! ## Records that are right -/

variable (decrypt period device) in
/-- The record tells which keys the meter uses from now on; nothing has become of the master key. -/
structure Settles (updated : Device) (t : Site) : Prop where
  agrees : ∀ kind, kind ≠ .master → t.Agrees decrypt period updated kind
  master : ∀ valid new span, device.Holds .master valid new span →
    updated.Holds .master valid new span

theorem settles_discardNewKeys {valid : KeyKind → SecurityKey}
    {new : KeyKind → Option SecurityKey} {first second : Instant}
    (hkeys : ∀ kind, kind ≠ .master → device.Holds kind (valid kind) (new kind) (s.Later period))
    (hplain : ∀ kind, kind ≠ .master → (valid kind).plain? decrypt = some (s.meter kind))
    (hfirst : s.Later period first) (hsecond : s.Later period second) (hst : s.Onward t) :
    Settles decrypt period device
      ((device.discardNewKeys .authentication first).discardNewKeys .encryption second) t := by
  constructor
  · intro kind hkind
    refine ⟨valid kind, ?_, by rw [hst.meter]; exact hplain kind hkind⟩
    refine Device.Holds.mono ?_ fun _ => hst.later
    cases kind with
    | master => exact absurd rfl hkind
    | authentication =>
        exact ((hkeys .authentication hkind).discardNewKeys hfirst).discardNewKeys_of_ne (by decide)
    | encryption =>
        exact ((hkeys .encryption hkind).discardNewKeys_of_ne (by decide)).discardNewKeys hsecond
  · intro v n span h
    exact (h.discardNewKeys_of_ne (by decide)).discardNewKeys_of_ne (by decide)

/-- The kinds of the unconfirmed keys are told from the credentials. -/
theorem newKinds_eq {span : Instant → Prop} {now : Instant} {valid : KeyKind → SecurityKey}
    {new : KeyKind → Option SecurityKey}
    (hkeys : ∀ kind, kind ≠ .master → device.Holds kind (valid kind) (new kind) span)
    (hnow : span now) :
    (Credentials.ofKeys fun kind => (new kind).getD (valid kind)).newKinds now =
      [KeyKind.authentication, .encryption].filter fun kind => (new kind).isSome := by
  have hone : ∀ kind, kind ≠ .master → ((new kind).getD (valid kind)).kind = kind ∧
      ((new kind).getD (valid kind)).isIn .new now = (new kind).isSome := by
    intro kind hkind
    have hholds := hkeys kind hkind
    cases hnew : new kind with
    | none =>
        obtain ⟨_, hvalidKind, hstate⟩ := hholds.valid_state hnow
        simp [SecurityKey.isIn, hvalidKind, hstate]
    | some key =>
        rw [hnew] at hholds
        obtain ⟨_, hnewKind, hstate⟩ := hholds.new_state hnow
        simp [SecurityKey.isIn, hnewKind, hstate]
  exact Credentials.newKinds_eq_filter (hone .authentication (by decide))
    (hone .encryption (by decide))

theorem ensures_promoteConfirmed (h : Follows decrypt period rules)
    {valid : KeyKind → SecurityKey} {new : KeyKind → Option SecurityKey}
    (hkeys : ∀ kind, kind ≠ .master → device.Holds kind (valid kind) (new kind) (s.Later period))
    (hplain : ∀ kind, kind ≠ .master →
      ((new kind).getD (valid kind)).plain? decrypt = some (s.meter kind)) :
    Task.Ensures rules
      (promoteConfirmed (.ofKeys fun kind => (new kind).getD (valid kind))) device s fun r d t =>
      s.Onward t ∧ ∃ updated, Settles decrypt period device updated t ∧
        Stores rules device updated s r d t := by
  rw [promoteConfirmed, Task.ensures_bind]
  refine ensures_now h fun now hnow => ?_
  dsimp only
  have hst : s.Onward { s with clock := now } := ⟨rfl, hnow.2⟩
  rw [newKinds_eq hkeys hnow, Task.ensures_bind]
  have hmem : ∀ kind, kind ∈ ([KeyKind.authentication, .encryption].filter
      fun kind => (new kind).isSome) ↔ kind ≠ .master ∧ (new kind).isSome = true := by
    intro kind
    cases kind <;> simp
  refine (ensures_promoteAll hnow (List.Pairwise.filter _ (by decide)) fun kind hkind =>
    ⟨((hmem kind).mp hkind).2, hkeys kind ((hmem kind).mp hkind).1⟩).imp ?_
  rintro r d t ⟨rfl, rfl, hin, hout⟩
  have hsettles : ∀ t, s.Onward t → t.clock = now → Settles decrypt period device d t := by
    intro t hst hclock
    refine ⟨fun kind hkind => ?_, hout .master (by simp [hmem])⟩
    have hkindPlain := hplain kind hkind
    cases hnew : new kind with
    | none =>
        rw [hnew] at hkindPlain
        have hholds := hkeys kind hkind
        rw [hnew] at hholds
        refine ⟨valid kind, ?_, by rw [hst.meter]; exact hkindPlain⟩
        exact (hout kind (by simp [hmem, hnew]) _ _ _ hholds).mono fun _ => hst.later
    | some key =>
        rw [hnew] at hkindPlain
        obtain ⟨key', hkey', hholds⟩ := hin kind ((hmem kind).mpr ⟨hkind, by simp [hnew]⟩)
        obtain rfl : key = key' := Option.some.inj (hnew.symm.trans hkey')
        refine ⟨key.begunAt now, ?_, by rw [hst.meter]; exact hkindPlain⟩
        exact hholds.mono fun _ hlater => ⟨hst.later hlater, hclock ▸ hlater.2⟩
  refine ensures_saveDevice h ?_ ?_
  · exact ⟨⟨rfl, hnow.2⟩, d, hsettles _ ⟨rfl, hnow.2⟩ rfl, .stored rfl⟩
  · intro hfails failure t ht
    rcases ht with rfl | rfl
    · exact ⟨hst, d, hsettles _ hst rfl, .failed hfails (.inl rfl)⟩
    · exact ⟨⟨rfl, hnow.2⟩, d, hsettles _ ⟨rfl, hnow.2⟩ rfl, .failed hfails (.inr rfl)⟩

/-! ## Opening a session -/

variable (decrypt period rules device s) in
/-- How opening a session may end: with a session and the right record, with a record that could not
be stored, or with the refusal of all credentials there are. -/
inductive Opens (valid : Credentials) (new? : Option Credentials) :
    Outcome OpenSession → Device → Site → Prop where
  | opened {session d t} :
      s.Accepts decrypt valid ∨ (∃ new, new? = some new ∧ s.Accepts decrypt new) →
      Settles decrypt period device d t → t.stored = d ∨ d = device ∧ t.stored = s.stored →
      Opens valid new? (.ok session) d t
  | unsaved {failure d t} :
      SaveFails rules → t.stored = s.stored ∨ Settles decrypt period device t.stored t →
      Opens valid new? (.error failure) d t
  | refused {failure t} :
      Refuses rules s valid → (∀ new, new? = some new → Refuses rules s new) →
      failure.isConnectionLoss = true → t.stored = s.stored →
      Opens valid new? (.error failure) device t

theorem Opens.of_onward {valid : Credentials} {new? : Option Credentials}
    {r : Outcome OpenSession} {d : Device} {s' : Site} (hs : s.Onward s')
    (hstored : s'.stored = s.stored) (h : Opens decrypt period rules device s' valid new? r d t) :
    Opens decrypt period rules device s valid new? r d t := by
  cases h with
  | opened haccepts hsettles ht =>
      rw [hstored] at ht
      refine .opened (haccepts.imp hs.accepts.mp ?_) hsettles ht
      rintro ⟨new, hnew, haccepts⟩
      exact ⟨new, hnew, hs.accepts.mp haccepts⟩
  | unsaved hfails ht =>
      rw [hstored] at ht
      exact .unsaved hfails ht
  | refused hvalid hnew hloss ht =>
      rw [hstored] at ht
      exact .refused (hvalid.of_onward hs) (fun new h => (hnew new h).of_onward hs) hloss ht

/-- Once a connection is accepted, the session is open unless the record cannot be stored. -/
theorem ensures_opened_of_stores (valid : Credentials) (new? : Option Credentials)
    {step : Step Unit}
    (haccepts : s.Accepts decrypt valid ∨ ∃ new, new? = some new ∧ s.Accepts decrypt new)
    (hstep : Task.Ensures rules step device s fun r d t => s.Onward t ∧ ∃ updated,
      Settles decrypt period device updated t ∧ Stores rules device updated s r d t) :
    Task.Ensures rules (step >>= fun _ => opened : Step OpenSession) device s fun r d t =>
      s.Onward t ∧ Opens decrypt period rules device s valid new? r d t := by
  rw [Task.ensures_bind]
  refine hstep.imp ?_
  rintro r d t ⟨hst, updated, hsettles, hstores⟩
  cases hstores with
  | unchanged hupdated hstored =>
      subst hupdated
      exact Step.ensures_opened.mpr ⟨hst, .opened haccepts hsettles (.inr ⟨rfl, hstored⟩)⟩
  | stored hstored => exact Step.ensures_opened.mpr ⟨hst, .opened haccepts hsettles (.inl hstored)⟩
  | failed hfails hstored =>
      refine ⟨hst, .unsaved hfails (hstored.imp id fun hstored => ?_)⟩
      rw [hstored]
      exact hsettles

/-- If the keys in use are refused, the session is opened with the unconfirmed ones or not at
all. -/
theorem ensures_recover (h : Follows decrypt period rules) {valid : KeyKind → SecurityKey}
    {new : KeyKind → Option SecurityKey} {failure : Failure}
    (hkeys : ∀ kind, kind ≠ .master → device.Holds kind (valid kind) (new kind) (s.Later period))
    (hrefuses : Refuses rules s (.ofKeys valid))
    (hloss : failure.isConnectionLoss = true) :
    Task.Ensures rules (recover (.ofKeys valid) failure) device s fun r d t => s.Onward t ∧
      Opens decrypt period rules device s (.ofKeys valid) (Credentials.ofNewKeys? valid new) r d
        t := by
  rw [recover, Task.ensures_bind, Step.ensures_recoveryCredentials?]
  intro first _ hclock second _ hclock'
  obtain ⟨hfirst, rfl⟩ := later_of_clock h hclock
  obtain ⟨hsecond, rfl⟩ := later_of_clock h hclock'
  have hst : s.Onward { s with clock := second } := ⟨rfl, Instant.le_trans hfirst.2 hsecond.2⟩
  dsimp only
  rw [(hkeys .authentication (by decide)).newKey? hfirst,
    (hkeys .encryption (by decide)).newKey? ⟨hsecond.1, hst.clock⟩]
  have hfold : (Credentials.ofKeys valid).withNew? (new .authentication) (new .encryption) =
      Credentials.ofNewKeys? valid new := rfl
  rw [hfold]
  cases hnew : Credentials.ofNewKeys? valid new with
  | none =>
      rw [Step.ensures_throw]
      exact ⟨hst, .refused hrefuses (by simp) hloss rfl⟩
  | some recovery =>
      obtain rfl := Credentials.ofNewKeys?_eq_some hnew
      have hkeys' : ∀ kind, kind ≠ .master → device.Holds kind (valid kind) (new kind)
          (Later { s with clock := second } period) :=
        fun kind hkind => (hkeys kind hkind).mono fun _ => hst.later
      dsimp only
      rw [hloss, Bool.not_true, if_neg Bool.false_ne_true, Task.ensures_bind]
      refine ensures_connect h (fun haccepts => ?_) fun hrefusesNew failure' _ => ?_
      · refine (ensures_opened_of_stores (.ofKeys valid) (some _) (.inr ⟨_, rfl, haccepts⟩)
          (ensures_promoteConfirmed h hkeys' haccepts.plain?)).imp ?_
        rintro r d t ⟨ht, hopens⟩
        exact ⟨hst.trans ht, hopens.of_onward hst rfl⟩
      · dsimp only
        rw [Step.ensures_throw]
        refine ⟨hst, .refused hrefuses ?_ hloss rfl⟩
        rintro _ ⟨⟩
        exact hrefusesNew.of_onward hst

/-- However the session is opened, it ends in one of the ways that there are. -/
theorem ensures_openSession (h : Follows decrypt period rules) {valid : KeyKind → SecurityKey}
    {new : KeyKind → Option SecurityKey}
    (hkeys : ∀ kind, kind ≠ .master → device.Holds kind (valid kind) (new kind) (s.Later period)) :
    Task.Ensures rules openSession device s fun r d t => s.Onward t ∧
      Opens decrypt period rules device s (.ofKeys valid) (Credentials.ofNewKeys? valid new) r d
        t := by
  rw [openSession, Task.ensures_bind]
  refine ensures_now h fun now hnow => ?_
  have hst : s.Onward { s with clock := now } := ⟨rfl, hnow.2⟩
  have hkeys' : ∀ kind, kind ≠ .master → device.Holds kind (valid kind) (new kind)
      (Later { s with clock := now } period) :=
    fun kind hkind => (hkeys kind hkind).mono fun _ => hst.later
  have hvalid : Credentials.valid device now = .ok (.ofKeys valid) := by
    simp only [Credentials.valid, Device.validKey,
      (hkeys .authentication (by decide)).validKey? hnow,
      (hkeys .encryption (by decide)).validKey? hnow]
    rfl
  dsimp only
  rw [Task.ensures_bind, Step.ensures_get]
  dsimp only
  rw [hvalid, Task.ensures_bind, Step.ensures_lift]
  dsimp only
  rw [Task.ensures_bind]
  refine ensures_connect h (fun haccepts => ?_) fun hrefuses failure hloss => ?_
  · have hdiscard : Task.Ensures rules discardUnconfirmed device { s with clock := now }
        fun r d t => Onward { s with clock := now } t ∧ ∃ updated,
          Settles decrypt period device updated t ∧
            Stores rules device updated { s with clock := now } r d t := by
      refine (ensures_discardUnconfirmed h).imp ?_
      rintro r d t ⟨ht, first, second, hfirst, hsecond, hstores⟩
      exact ⟨ht, _, settles_discardNewKeys hkeys' haccepts.plain? hfirst hsecond ht, hstores⟩
    refine (ensures_opened_of_stores (.ofKeys valid) (Credentials.ofNewKeys? valid new)
      (.inl haccepts) hdiscard).imp ?_
    rintro r d t ⟨ht, hopens⟩
    exact ⟨hst.trans ht, hopens.of_onward hst rfl⟩
  · refine (ensures_recover h hkeys' hrefuses hloss).imp ?_
    rintro r d t ⟨ht, hopens⟩
    exact ⟨hst.trans ht, hopens.of_onward hst rfl⟩

end HeadEnd.Exchange
