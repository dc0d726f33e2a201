import HeadEnd.Proofs.Exchange.Opening

/-! # Recovery

What opening a session does while nothing goes wrong. Two pairs of keys are tried: the keys in use,
and the keys that result if every unconfirmed key is put in the place of the one in use. A meter
that has taken over one of two unconfirmed keys uses neither pair.
-/

namespace HeadEnd.Exchange

open Site

variable {decrypt : List UInt8 → Option (List UInt8)} {period : Instant → Prop}
  {device : Device} {s : Site}

/-! ## Faultless openings -/

theorem not_saveFails_faultless : ¬ SaveFails (faultless decrypt period) := by
  rintro ⟨s, device, failure, t, _, hanswer⟩
  cases hanswer

theorem not_accepts_of_refuses {credentials : Credentials}
    (h : Refuses (faultless decrypt period) s credentials) : ¬ s.Accepts decrypt credentials := by
  obtain ⟨s', device, failure, t, hmeter, _, hanswer⟩ := h
  intro haccepts
  rw [Accepts, ← hmeter] at haccepts
  cases hanswer haccepts

/-- While nothing goes wrong, the meter alone decides whether the session is opened. -/
theorem ensures_openSession_faultless {valid : KeyKind → SecurityKey}
    {new : KeyKind → Option SecurityKey}
    (hkeys : ∀ kind, kind ≠ .master → device.Holds kind (valid kind) (new kind) (s.Later period)) :
    Task.Ensures (faultless decrypt period) openSession device s fun r d t => s.Onward t ∧
      match r with
      | .ok _ =>
        (s.Accepts decrypt (.ofKeys valid) ∨
          ∃ recovery, Credentials.ofNewKeys? valid new = some recovery ∧
            s.Accepts decrypt recovery) ∧
        Settles decrypt period device d t ∧ (t.stored = d ∨ d = device ∧ t.stored = s.stored)
      | .error failure =>
        (¬ s.Accepts decrypt (.ofKeys valid) ∧
          ∀ recovery, Credentials.ofNewKeys? valid new = some recovery →
            ¬ s.Accepts decrypt recovery) ∧
        failure.isConnectionLoss = true ∧ d = device ∧ t.stored = s.stored := by
  refine (ensures_openSession faultless_follows hkeys).imp ?_
  rintro r d t ⟨hst, hopens⟩
  refine ⟨hst, ?_⟩
  cases hopens with
  | opened haccepts hsettles hstored => exact ⟨haccepts, hsettles, hstored⟩
  | unsaved hfails => exact absurd hfails not_saveFails_faultless
  | refused hvalid hnew hloss hstored =>
      have hrecovery : ∀ recovery, Credentials.ofNewKeys? valid new = some recovery →
          ¬ s.Accepts decrypt recovery := fun recovery h => not_accepts_of_refuses (hnew recovery h)
      exact ⟨⟨not_accepts_of_refuses hvalid, hrecovery⟩, hloss, rfl, hstored⟩

theorem exists_faultless (question : Question) (hs : period s.clock) :
    ∃ answer t, faultless decrypt period question s answer t ∧ period t.clock := by
  cases question with
  | session question =>
      cases question with
      | clock => exact ⟨s.clock, _, ⟨⟨Instant.le_refl s.clock, rfl⟩, hs⟩, hs⟩
      | save device => exact ⟨.ok device, _, ⟨.inl ⟨rfl, rfl⟩, rfl⟩, hs⟩
      | decrypt data => exact ⟨.error .timeout, s, ⟨⟨rfl, by simp⟩, trivial⟩, hs⟩
      | call method => exact ⟨.error .timeout, s, ⟨.inr ⟨rfl, by simp⟩, trivial⟩, hs⟩
      | describe text => exact ⟨(), s, ⟨rfl, trivial⟩, hs⟩
      | _ => exact ⟨.error .timeout, s, ⟨rfl, trivial⟩, hs⟩
  | load device => exact ⟨.ok s.stored, s, ⟨⟨rfl, .inl rfl⟩, rfl⟩, hs⟩
  | connect device credentials =>
      by_cases haccepts : s.Accepts decrypt credentials
      · exact ⟨.ok (), s, ⟨⟨rfl, .inl ⟨rfl, haccepts⟩⟩, fun _ => rfl⟩, hs⟩
      · exact ⟨.error .timeout, s, ⟨⟨rfl, .inr ⟨.timeout, rfl, rfl⟩⟩, (absurd · haccepts)⟩, hs⟩
  | close => exact ⟨.ok (), s, ⟨rfl, trivial⟩, hs⟩
  | _ => exact ⟨(), s, ⟨rfl, trivial⟩, hs⟩

theorem period_of_faultless {question : Question} {answer : Answer question} {t : Site}
    (h : faultless decrypt period question s answer t) (hs : period s.clock) : period t.clock := by
  obtain ⟨hrules, hanswer⟩ := h
  cases question with
  | session question =>
      cases question with
      | clock =>
          obtain ⟨_, rfl⟩ := hrules
          exact hanswer
      | save device =>
          rcases hrules with ⟨_, rfl⟩ | ⟨_, _, rfl | rfl⟩ <;> exact hs
      | decrypt data => exact hrules.1 ▸ hs
      | call method =>
          rcases hrules with ⟨_, _, _, _, _, _, _, rfl⟩ | ⟨rfl, _⟩ <;> exact hs
      | _ => exact (show _ = s from hrules) ▸ hs
  | load device => exact hrules.1 ▸ hs
  | connect device credentials => exact hrules.1 ▸ hs
  | _ => exact (show _ = s from hrules) ▸ hs

theorem exists_runs_openSession (decrypt : List UInt8 → Option (List UInt8)) (device : Device)
    (hs : period s.clock) :
    ∃ r d t, Dialogue.Runs (faultless decrypt period) (openSession.run.run device) s (r, d) t := by
  have hanswers : ∀ question (s : Site), period s.clock →
      ∃ answer t, faultless decrypt period question s answer t ∧ period t.clock :=
    fun question _ => exists_faultless question
  obtain ⟨⟨r, d⟩, t, hruns⟩ := Dialogue.exists_runs hanswers (openSession.run.run device) hs
  exact ⟨r, d, t, hruns⟩

/-! ## Which meters are reached -/

/-- A session is opened, whichever faultless course things take, exactly if the meter uses the keys
in use or these with every unconfirmed key in place of its predecessor. Then the keys in use are
those of the meter, on the device and in the store, and no key is left unconfirmed; otherwise
nothing has changed. -/
theorem openSession_faultless_iff {valid : KeyKind → SecurityKey}
    {new : KeyKind → Option SecurityKey} (hclock : period s.clock)
    (hkeys : ∀ kind, kind ≠ .master → device.Holds kind (valid kind) (new kind) period) :
    (∃ r d t, Dialogue.Runs (faultless decrypt period) (openSession.run.run device) s (r, d) t) ∧
    ∀ r d t, Dialogue.Runs (faultless decrypt period) (openSession.run.run device) s (r, d) t →
      t.meter = s.meter ∧ period t.clock ∧
      ((∃ session, r = .ok session) ↔ s.Accepts decrypt (.ofKeys valid) ∨
        ∃ recovery, Credentials.ofNewKeys? valid new = some recovery ∧
          s.Accepts decrypt recovery) ∧
      ((∃ session, r = .ok session) →
        (∀ kind, kind ≠ .master → t.Agrees decrypt period d kind) ∧
        (t.stored = d ∨ d = device ∧ t.stored = s.stored)) ∧
      ∀ failure, r = .error failure →
        failure.isConnectionLoss = true ∧ d = device ∧ t.stored = s.stored := by
  refine ⟨exists_runs_openSession decrypt device hclock, fun r d t hruns => ?_⟩
  have hlater : ∀ kind, kind ≠ .master →
      device.Holds kind (valid kind) (new kind) (s.Later period) :=
    fun kind hkind => (hkeys kind hkind).mono fun _ => And.left
  obtain ⟨hst, hopens⟩ := ensures_openSession_faultless hlater (r, d) t hruns
  refine ⟨hst.meter, hruns.preserves (fun _ _ _ _ => period_of_faultless) hclock, ?_⟩
  cases r with
  | ok session =>
      obtain ⟨haccepts, hsettles, hstored⟩ := hopens
      exact ⟨⟨fun _ => haccepts, fun _ => ⟨session, rfl⟩⟩, fun _ => ⟨hsettles.agrees, hstored⟩,
        by simp⟩
  | error failure =>
      obtain ⟨⟨hvalid, hnew⟩, hrest⟩ := hopens
      refine ⟨⟨by simp, ?_⟩, by simp, ?_⟩
      · rintro (haccepts | ⟨recovery, hrecovery, haccepts⟩)
        · exact absurd haccepts hvalid
        · exact absurd haccepts (hnew recovery hrecovery)
      · rintro _ ⟨⟩
        exact hrest

/-- A device both keys of which have been replaced without a confirmation of the meter. -/
def unconfirmedPair : Device where
  identification := "meter"
  keys := [
    ⟨.authentication, Hex.text [1], some ⟨0, 0⟩, none⟩, .unconfirmed .authentication (Hex.text [2]),
    ⟨.encryption, Hex.text [3], some ⟨0, 0⟩, none⟩, .unconfirmed .encryption (Hex.text [4])]

def unconfirmedPairValid (kind : KeyKind) : SecurityKey :=
  ⟨kind, Hex.text (if kind = .authentication then [1] else [3]), some ⟨0, 0⟩, none⟩

def unconfirmedPairNew (kind : KeyKind) : Option SecurityKey :=
  some (.unconfirmed kind (Hex.text (if kind = .authentication then [2] else [4])))

/-- A meter of which `unconfirmedPair` is stored, with the keys that it uses. -/
def siteOfPair (authentication encryption : List UInt8) : Site where
  clock := ⟨0, 0⟩
  stored := unconfirmedPair
  meter kind := if kind = .authentication then authentication else encryption

theorem unconfirmedPair_holds (kind : KeyKind) (hkind : kind ≠ .master) :
    unconfirmedPair.Holds kind (unconfirmedPairValid kind) (unconfirmedPairNew kind)
      (· = ⟨0, 0⟩) := by
  constructor
  · rintro _ rfl
    cases kind with
    | master => exact absurd rfl hkind
    | _ => rfl
  · rintro _ rfl
    cases kind with
    | master => exact absurd rfl hkind
    | _ => rfl

theorem openSession_faultless_iff_of_both_taken_over :
    ∃ session d t, Dialogue.Runs (faultless some (· = ⟨0, 0⟩))
        (openSession.run.run unconfirmedPair) (siteOfPair [2] [4]) (.ok session, d) t ∧
      ∀ kind, kind ≠ .master → t.Agrees some (· = ⟨0, 0⟩) d kind := by
  obtain ⟨⟨r, d, t, hruns⟩, hopened⟩ := @openSession_faultless_iff some (· = ⟨0, 0⟩)
    unconfirmedPair (siteOfPair [2] [4]) unconfirmedPairValid unconfirmedPairNew rfl
    unconfirmedPair_holds
  obtain ⟨_, _, hiff, hagrees, _⟩ := hopened r d t hruns
  obtain ⟨session, rfl⟩ : ∃ session, r = .ok session := by
    refine hiff.mpr (.inr ⟨_, rfl, ?_⟩)
    simp [Accepts, unconfirmedPairNew, siteOfPair]
  exact ⟨session, d, t, hruns, (hagrees ⟨session, rfl⟩).1⟩

/-- A meter that has taken over only one of two unconfirmed keys is not reached, although each of
its keys is one of the two that are stored for it. -/
theorem not_openSession_of_one_taken_over :
    ¬ ∀ (decrypt : List UInt8 → Option (List UInt8)) (period : Instant → Prop) (device : Device)
      (s : Site) (valid : KeyKind → SecurityKey) (new : KeyKind → Option SecurityKey),
      period s.clock →
      (∀ kind, kind ≠ .master → device.Holds kind (valid kind) (new kind) period) →
      (∀ kind, kind ≠ .master → (valid kind).plain? decrypt = some (s.meter kind) ∨
        ∃ key, new kind = some key ∧ key.plain? decrypt = some (s.meter kind)) →
      ∀ r d t, Dialogue.Runs (faultless decrypt period) (openSession.run.run device) s (r, d) t →
        ∃ session, r = .ok session := by
  intro hclaim
  have hkeys : ∀ kind, kind ≠ .master → unconfirmedPair.Holds kind (unconfirmedPairValid kind)
      (unconfirmedPairNew kind) ((siteOfPair [2] [3]).Later (· = ⟨0, 0⟩)) :=
    fun kind hkind => (unconfirmedPair_holds kind hkind).mono fun _ => And.left
  have hstored : ∀ kind, kind ≠ .master →
      (unconfirmedPairValid kind).plain? some = some ((siteOfPair [2] [3]).meter kind) ∨
        ∃ key, unconfirmedPairNew kind = some key ∧
          key.plain? some = some ((siteOfPair [2] [3]).meter kind) := by
    intro kind hkind
    cases kind with
    | master => exact absurd rfl hkind
    | authentication => exact .inr ⟨_, rfl, by simp [siteOfPair]⟩
    | encryption => exact .inl (by simp [unconfirmedPairValid, siteOfPair])
  obtain ⟨r, d, t, hruns⟩ := @exists_runs_openSession (· = ⟨0, 0⟩) (siteOfPair [2] [3]) some
    unconfirmedPair rfl
  obtain ⟨session, rfl⟩ := hclaim some (· = ⟨0, 0⟩) unconfirmedPair (siteOfPair [2] [3]) _ _ rfl
    unconfirmedPair_holds hstored r d t hruns
  obtain ⟨_, haccepts, _⟩ := ensures_openSession_faultless hkeys _ t hruns
  rcases haccepts with haccepts | ⟨recovery, hrecovery, haccepts⟩
  · simp [Accepts, Credentials.ofKeys, unconfirmedPairValid, siteOfPair] at haccepts
  · obtain rfl := Credentials.ofNewKeys?_eq_some hrecovery
    simp [Accepts, Credentials.ofKeys, unconfirmedPairNew, siteOfPair] at haccepts

end HeadEnd.Exchange
