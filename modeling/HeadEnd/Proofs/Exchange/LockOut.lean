import HeadEnd.Proofs.Bundle.Run
import HeadEnd.Proofs.Command.Quiet
import HeadEnd.Proofs.Command.Registry
import HeadEnd.Proofs.Exchange.Recovery
import HeadEnd.Proofs.Exchange.Renewal
import HeadEnd.Proofs.Exchange.Service
import HeadEnd.Proofs.Key.Staging

/-! # No lock-out

Whatever goes wrong in the course of many exchanges, what is stored leads to the keys that the meter
uses, as long as each exchange changes keys at most once. The first exchange in which nothing goes
wrong ends every doubt.
-/

namespace HeadEnd.Site

variable {decrypt : List UInt8 → Option (List UInt8)} {device : Device} {s t : Site}
  {registry : Registry} {settings : Settings}

/-! ## The keys of a recoverable site -/

/-- What is stored of a recoverable site: a key in use of every kind, and of one kind at most an
unconfirmed key. The meter uses the keys in use, or the unconfirmed key in place of one of them. -/
structure Keys (decrypt : List UInt8 → Option (List UInt8)) (s : Site)
    (valid : KeyKind → SecurityKey) (new : KeyKind → Option SecurityKey) : Prop where
  holds : ∀ kind, s.stored.Holds kind (valid kind) (new kind) (s.Later always)
  master : new .master = none ∧ (valid .master).plain? decrypt = some (s.meter .master)
  single : new .authentication = none ∨ new .encryption = none
  accepts : s.Accepts decrypt (.ofKeys valid) ∨ ∃ kind key, new kind = some key ∧
    s.Accepts decrypt (.ofKeys fun j => if j = kind then key else valid j)

theorem Confirmed.exists_keys (h : s.Confirmed decrypt s.stored) :
    ∃ valid, s.Keys decrypt valid fun _ => none := by
  obtain ⟨valid, hvalid⟩ := Classical.axiomOfChoice h
  exact ⟨valid, fun kind => (hvalid kind).1, ⟨rfl, (hvalid .master).2⟩, .inl rfl,
    .inl ⟨(hvalid .authentication).2, (hvalid .encryption).2⟩⟩

theorem Doubtful.exists_keys {kind : KeyKind} {key : SecurityKey}
    (h : s.Doubtful decrypt s.stored kind key) :
    ∃ valid, s.Keys decrypt valid fun j => if j = kind then some key else none := by
  have hkeys : ∀ j, ∃ valid,
      s.stored.Holds j valid (if j = kind then some key else none) (s.Later always) ∧
      (valid.plain? decrypt = some (s.meter j) ∨
        j = kind ∧ key.plain? decrypt = some (s.meter j)) := by
    intro j
    by_cases hj : j = kind
    · subst hj
      obtain ⟨valid, hholds, hplain⟩ := h.doubt
      rw [if_pos rfl]
      exact ⟨valid, hholds, hplain.imp id fun hnew => ⟨rfl, hnew⟩⟩
    · obtain ⟨valid, hholds, hplain⟩ := h.others j hj
      rw [if_neg hj]
      exact ⟨valid, hholds, .inl hplain⟩
  obtain ⟨valid, hvalid⟩ := Classical.axiomOfChoice hkeys
  have hsure : ∀ j, j ≠ kind → (valid j).plain? decrypt = some (s.meter j) :=
    fun j hj => (hvalid j).2.resolve_right fun hnew => hj hnew.1
  have hmaster : KeyKind.master ≠ kind := h.changeable.symm
  refine ⟨valid, fun j => (hvalid j).1, ⟨if_neg hmaster, hsure .master hmaster⟩, ?_, ?_⟩
  · cases kind with
    | authentication => exact .inr rfl
    | _ => exact .inl rfl
  · rcases (hvalid kind).2 with hold | ⟨_, hnew⟩
    · have hall : ∀ j, (valid j).plain? decrypt = some (s.meter j) := by
        intro j
        by_cases hj : j = kind
        · rw [hj]
          exact hold
        · exact hsure j hj
      exact .inl ⟨hall .authentication, hall .encryption⟩
    · have hall : ∀ j, (if j = kind then key else valid j).plain? decrypt = some (s.meter j) := by
        intro j
        by_cases hj : j = kind
        · rw [if_pos hj, hj]
          exact hnew
        · rw [if_neg hj]
          exact hsure j hj
      exact .inr ⟨kind, key, if_pos rfl, hall .authentication, hall .encryption⟩

theorem Recoverable.exists_keys (h : s.Recoverable decrypt) :
    ∃ valid new, s.Keys decrypt valid new := by
  rcases h with hconfirmed | ⟨kind, key, hdoubt⟩
  · obtain ⟨valid, hkeys⟩ := hconfirmed.exists_keys
    exact ⟨valid, _, hkeys⟩
  · obtain ⟨valid, hkeys⟩ := hdoubt.exists_keys
    exact ⟨valid, _, hkeys⟩

/-- One of the two pairs that are tried when a session is opened is the one of the meter. -/
theorem Keys.accepts_tried {valid : KeyKind → SecurityKey} {new : KeyKind → Option SecurityKey}
    (h : s.Keys decrypt valid new) : s.Accepts decrypt (.ofKeys valid) ∨
      ∃ recovery, Credentials.ofNewKeys? valid new = some recovery ∧
        s.Accepts decrypt recovery := by
  refine h.accepts.imp id ?_
  rintro ⟨kind, key, hnew, haccepts⟩
  have hsingle := h.single
  cases kind with
  | master =>
      rw [h.master.1] at hnew
      cases hnew
  | authentication =>
      rw [hnew] at hsingle
      have henc := hsingle.resolve_left (by simp)
      refine ⟨⟨key, valid .encryption⟩, ?_, haccepts⟩
      rw [Credentials.ofNewKeys?, hnew, henc]
      rfl
  | encryption =>
      rw [hnew] at hsingle
      have hauth := hsingle.resolve_right (by simp)
      refine ⟨⟨valid .authentication, key⟩, ?_, haccepts⟩
      rw [Credentials.ofNewKeys?, hnew, hauth]
      rfl

/-! ## Sessions -/

theorem Keys.confirmed_of_settles {valid : KeyKind → SecurityKey}
    {new : KeyKind → Option SecurityKey} (h : s.Keys decrypt valid new) (hst : s.Onward t)
    (hsettles : Exchange.Settles decrypt always s.stored device t) :
    t.Confirmed decrypt device := by
  intro kind
  by_cases hkind : kind = .master
  · subst hkind
    obtain ⟨hnew, hplain⟩ := h.master
    have hholds := h.holds .master
    rw [hnew] at hholds
    refine ⟨valid .master, (hsettles.master _ _ _ hholds).mono fun _ => hst.later, ?_⟩
    rw [hst.meter]
    exact hplain
  · exact hsettles.agrees kind hkind

/-- A session is only opened without doubt, and is never opened at the price of a lock-out. -/
theorem ensures_openSession (h : s.Recoverable decrypt) :
    Task.Ensures (exchanges decrypt) Exchange.openSession s.stored s fun r d t =>
      match r with
      | .ok _ => t.Confirmed decrypt d ∧ t.stored = d
      | .error _ => t.Recoverable decrypt := by
  obtain ⟨valid, new, hkeys⟩ := h.exists_keys
  refine (Exchange.ensures_openSession exchanges_follows fun kind _ => hkeys.holds kind).imp ?_
  rintro r d t ⟨hst, hopens⟩
  cases hopens with
  | opened _ hsettles hstored =>
      refine ⟨hkeys.confirmed_of_settles hst hsettles, ?_⟩
      rcases hstored with hstored | ⟨rfl, hstored⟩ <;> exact hstored
  | unsaved _ hstored =>
      rcases hstored with hstored | hsettles
      · exact h.onward hst hstored
      · exact .inl (hkeys.confirmed_of_settles hst hsettles)
  | refused _ _ _ hstored => exact h.onward hst hstored

theorem onward_of_isQuiet {question : Question} {answer : Answer question}
    (hquiet : question.IsQuiet) (h : sessions decrypt question s answer t) :
    s.Onward t ∧ t.stored = s.stored := by
  cases question with
  | clock =>
      obtain ⟨hle, rfl⟩ := h
      exact ⟨⟨rfl, hle⟩, rfl⟩
  | read | readBatch | write | describe =>
      obtain rfl : t = s := h
      exact ⟨.refl t, rfl⟩
  | _ => exact hquiet.elim

theorem ensures_of_isQuiet {α : Type} {operation : Operation α} (h : operation.IsQuiet) :
    Task.Ensures (sessions decrypt) operation device s fun _ d t =>
      d = device ∧ s.Onward t ∧ t.stored = s.stored := by
  refine h.ensures ?_ ⟨.refl s, rfl⟩
  rintro question u answer t hquiet hrules ⟨hsu, hu⟩
  obtain ⟨hut, ht⟩ := onward_of_isQuiet hquiet hrules
  exact ⟨hsu.trans hut, ht.trans hu⟩

/-! ## Bundles -/

theorem ensures_handle_setKeys (keys : KeyPair) (h : s.Confirmed decrypt device)
    (hstored : s.stored = device) :
    Task.Ensures (sessions decrypt) (Command.setKeys.handle (.setKeys keys)) device s
      fun _ _ t => t.Recoverable decrypt := by
  change Task.Ensures _ (keys.execute >>= fun output => liftM _) _ _ _
  rw [Task.ensures_bind]
  refine (ensures_executePair keys h hstored).imp ?_
  rintro (failure | output) d t hkeys
  · exact hkeys
  · refine Operation.ensures_lift.mpr (.inl ?_)
    rw [hkeys.2]
    exact hkeys.1

/-- Requests that do not replace keys change nothing that matters for keys. -/
theorem onward_of_respond (hregistry : registry.IsCatalogued) {request : Request}
    {answer : Outcome Response} {d : Device} (hkind : request.kind ≠ .setKeys)
    (h : Dialogue.Runs (sessions decrypt) (Bundle.respond registry settings request device) s
      (answer, d) t) : d = device ∧ s.Onward t ∧ t.stored = s.stored := by
  cases hfind : registry.find? request.kind with
  | none =>
      obtain ⟨hr, rfl⟩ := (Bundle.runs_respond_of_none hfind).mp h
      cases hr
      exact ⟨rfl, .refl t, rfl⟩
  | some handler =>
      obtain ⟨outcome, d', hruns, hr⟩ := (Bundle.runs_respond_of_some hfind).mp h
      cases hr
      obtain ⟨command, hcommand, rfl⟩ := hregistry.find? hfind
      have hquiet : (command.handle request).IsQuiet := by
        rcases Command.isQuiet_handle_of_mem hcommand request with rfl | hquiet
        · exact Command.isQuiet_handle_setKeys fun keys hrequest => hkind (hrequest ▸ rfl)
        · exact hquiet
      exact ensures_of_isQuiet hquiet _ _ hruns

theorem recoverable_of_respond (hregistry : registry.IsCatalogued) {request : Request}
    {answer : Outcome Response} {d : Device} (hs : s.Confirmed decrypt device)
    (hstored : s.stored = device)
    (h : Dialogue.Runs (sessions decrypt) (Bundle.respond registry settings request device) s
      (answer, d) t) : t.Recoverable decrypt := by
  have hrecoverable : s.Recoverable decrypt := .inl (hstored ▸ hs)
  by_cases hkind : request.kind = .setKeys
  · cases hfind : registry.find? request.kind with
    | none =>
        obtain ⟨_, rfl⟩ := (Bundle.runs_respond_of_none hfind).mp h
        exact hrecoverable
    | some handler =>
        obtain ⟨outcome, d', hruns, _⟩ := (Bundle.runs_respond_of_some hfind).mp h
        obtain ⟨command, hcommand, rfl⟩ := hregistry.find? hfind
        rcases Command.isQuiet_handle_of_mem hcommand request with rfl | hquiet
        · cases request with
          | setKeys keys => exact ensures_handle_setKeys keys hs hstored _ _ hruns
          | _ => cases hkind
        · obtain ⟨_, hst, ht⟩ := ensures_of_isQuiet hquiet _ _ hruns
          exact hrecoverable.onward hst ht
  · obtain ⟨_, hst, ht⟩ := onward_of_respond hregistry hkind h
    exact hrecoverable.onward hst ht

/-- The number of the requests to replace keys that have not been answered. -/
def pendingKeyChanges (actions : List Action) : Nat :=
  actions.countP fun action => !action.isCompleted && action.request.kind == .setKeys

theorem pendingKeyChanges_of_completed {action : Action} {rest : List Action}
    (h : action.isCompleted = true) :
    pendingKeyChanges (action :: rest) = pendingKeyChanges rest := by
  simp [pendingKeyChanges, h]

theorem pendingKeyChanges_of_pending {action : Action} {rest : List Action}
    (h : action.isCompleted = false) : pendingKeyChanges (action :: rest) =
      pendingKeyChanges rest + if action.request.kind = .setKeys then 1 else 0 := by
  simp [pendingKeyChanges, List.countP_cons, h]

theorem recoverable_of_quiet_runActions (hregistry : registry.IsCatalogued)
    {actions actions' : List Action} {result : Outcome Unit} {d : Device}
    (hactions : pendingKeyChanges actions = 0) (hs : s.Recoverable decrypt)
    (h : Dialogue.Runs (sessions decrypt) ((Bundle.runActions registry settings actions).run device)
      s ((actions', result), d) t) : t.Recoverable decrypt := by
  induction actions generalizing actions' device s with
  | nil =>
      obtain ⟨_, _, rfl⟩ := Bundle.runs_runActions_nil.mp h
      exact hs
  | cons action rest ih =>
      cases hcompleted : action.isCompleted with
      | true =>
          rw [pendingKeyChanges_of_completed hcompleted] at hactions
          obtain ⟨rest', _, hrest⟩ := (Bundle.runs_runActions_of_completed hcompleted).mp h
          exact ih hactions hs hrest
      | false =>
          rw [pendingKeyChanges_of_pending hcompleted] at hactions
          have hkind : action.request.kind ≠ .setKeys := by
            intro hkind
            simp [hkind] at hactions
          obtain ⟨answer, d₁, s₁, hrespond, hrest⟩ :=
            (Bundle.runs_runActions_of_pending hcompleted).mp h
          obtain ⟨_, hst, hstored⟩ := onward_of_respond hregistry hkind hrespond
          have hs₁ := hs.onward hst hstored
          cases answer with
          | error failure =>
              obtain ⟨_, _, rfl⟩ := hrest
              exact hs₁
          | ok response =>
              obtain ⟨rest', _, hrest⟩ := hrest
              exact ih (by omega) hs₁ hrest

/-- With one change of keys at most, a bundle may end in doubt about one key at most. -/
theorem recoverable_of_runActions (hregistry : registry.IsCatalogued)
    {actions actions' : List Action} {result : Outcome Unit} {d : Device}
    (hactions : pendingKeyChanges actions ≤ 1) (hs : s.Confirmed decrypt device)
    (hstored : s.stored = device)
    (h : Dialogue.Runs (sessions decrypt) ((Bundle.runActions registry settings actions).run device)
      s ((actions', result), d) t) : t.Recoverable decrypt := by
  have hrecoverable : s.Recoverable decrypt := .inl (hstored ▸ hs)
  induction actions generalizing actions' device s with
  | nil =>
      obtain ⟨_, _, rfl⟩ := Bundle.runs_runActions_nil.mp h
      exact hrecoverable
  | cons action rest ih =>
      cases hcompleted : action.isCompleted with
      | true =>
          rw [pendingKeyChanges_of_completed hcompleted] at hactions
          obtain ⟨rest', _, hrest⟩ := (Bundle.runs_runActions_of_completed hcompleted).mp h
          exact ih hactions hs hstored hrest hrecoverable
      | false =>
          rw [pendingKeyChanges_of_pending hcompleted] at hactions
          obtain ⟨answer, d₁, s₁, hrespond, hrest⟩ :=
            (Bundle.runs_runActions_of_pending hcompleted).mp h
          have hs₁ := recoverable_of_respond hregistry hs hstored hrespond
          cases answer with
          | error failure =>
              obtain ⟨_, _, rfl⟩ := hrest
              exact hs₁
          | ok response =>
              obtain ⟨rest', _, hrest⟩ := hrest
              -- The one change of keys leaves no doubt when it succeeds, and uses up the bound.
              by_cases hkind : action.request.kind = .setKeys
              · rw [if_pos hkind] at hactions
                exact recoverable_of_quiet_runActions hregistry (by omega) hs₁ hrest
              · rw [if_neg hkind] at hactions
                obtain ⟨rfl, hst, hstored₁⟩ := onward_of_respond hregistry hkind hrespond
                exact ih hactions (hs.onward hst) (hstored₁.trans hstored) hrest hs₁

/-! ## Exchanges -/

variable {identification : String}

theorem recoverable_of_withSession {α : Type} {onFailure : Failure → α}
    {body : StateT Device Session α} {a : α} (hs : s.Recoverable decrypt)
    (hbody : ∀ d t, t.Confirmed decrypt d → t.stored = d →
      Dialogue.Ensures (sessions decrypt) (body.run d) t fun _ u => u.Recoverable decrypt)
    (h : Dialogue.Runs (exchanges decrypt) (Exchange.withSession identification onFailure body) s
      a t) : t.Recoverable decrypt := by
  cases Exchange.runs_withSession_iff.mp h with
  | unloaded hacquire hload hrelease =>
      obtain rfl : _ = s := hacquire
      obtain ⟨rfl, _⟩ := hload
      obtain rfl : t = _ := hrelease
      exact hs
  | unopened hacquire hload hopen hrelease =>
      obtain rfl : _ = s := hacquire
      obtain ⟨rfl, hstored⟩ := hload
      obtain rfl : t = _ := hrelease
      rcases hstored with hstored | ⟨_, ⟨⟩⟩
      cases hstored
      exact ensures_openSession hs _ t hopen
  | carried hacquire hload hopen hbodyRun hclose hrelease =>
      obtain rfl : _ = s := hacquire
      obtain ⟨rfl, hstored⟩ := hload
      obtain rfl : _ = _ := hclose
      obtain rfl : t = _ := hrelease
      rcases hstored with hstored | ⟨_, ⟨⟩⟩
      cases hstored
      obtain ⟨hconfirmed, hstored⟩ := ensures_openSession hs _ _ hopen
      exact hbody _ _ hconfirmed hstored _ t hbodyRun

variable (decrypt registry settings identification) in
/-- After any number of exchanges with a device, each of which changes keys at most once. -/
inductive Exchanged (s : Site) : Site → Prop where
  | start : Exchanged s s
  | replaceKey {t u} (change : KeyChange) {result} :
      Exchanged s t →
      Dialogue.Runs (exchanges decrypt)
        (Exchange.handleOperation identification change.execute) t result u →
      Exchanged s u
  | handleBundle {t u} (bundle : Bundle) {result} :
      Exchanged s t → pendingKeyChanges bundle.actions ≤ 1 →
      Dialogue.Runs (exchanges decrypt)
        (Exchange.handleBundle registry settings identification bundle) t result u →
      Exchanged s u

theorem Exchanged.recoverable (hregistry : registry.IsCatalogued) (hs : s.Recoverable decrypt)
    (h : Exchanged decrypt registry settings identification s t) : t.Recoverable decrypt := by
  induction h with
  | start => exact hs
  | replaceKey change _ hruns ih =>
      refine recoverable_of_withSession ih (fun d t ht hstored => ?_) hruns
      refine Dialogue.Ensures.imp (ensures_execute change ht hstored) ?_
      rintro ⟨failure | _, d'⟩ u hu
      · exact hu
      · exact .inl (hu.2 ▸ hu.1)
  | handleBundle bundle _ hactions hruns ih =>
      refine recoverable_of_withSession ih (fun d t ht hstored => ?_) hruns
      rintro ⟨⟨bundle', result⟩, d'⟩ u hrun
      exact recoverable_of_runActions hregistry hactions ht hstored (Bundle.runs_run_iff.mp hrun)

variable (decrypt) in
/-- Of every kind one key is in use, which has no end and is the one of the meter, and all other
keys are expired. -/
def Settled (s : Site) : Prop :=
  ∀ kind, ∃ key, s.stored.keysIn kind .valid s.clock = [key] ∧ key.validTo = none ∧
    key.plain? decrypt = some (s.meter kind) ∧
    ∀ other ∈ s.stored.keys, other.kind = kind → other = key ∨ other.state s.clock = .expired

theorem Settled.confirmed (h : s.Settled decrypt) : s.Confirmed decrypt s.stored := by
  intro kind
  obtain ⟨key, hkey, hend, hplain, hothers⟩ := h kind
  have hvalid : ∀ t, s.clock ≤ t → key.state t = .valid := by
    intro t ht
    have hmem : key ∈ s.stored.keysIn kind .valid s.clock := hkey ▸ List.mem_singleton_self key
    obtain ⟨_, hfrom⟩ := SecurityKey.state_eq_valid_iff.mp (Device.mem_keysIn.mp hmem).2.2
    rw [SecurityKey.state_eq_valid_iff, hend]
    exact ⟨rfl, SecurityKey.hasCome_mono hfrom ht⟩
  refine ⟨key, ⟨fun t ht => ?_, fun t ht => ?_⟩, hplain⟩
  · rw [← hkey]
    refine List.filter_congr fun other hother => ?_
    rw [Bool.eq_iff_iff, SecurityKey.is_iff, SecurityKey.is_iff]
    refine and_congr_right fun hkind => ?_
    rcases hothers other hother hkind with rfl | hexpired
    · rw [hvalid t ht.2, hvalid s.clock (Instant.le_refl _)]
    · rw [hexpired, SecurityKey.state_expired_mono hexpired ht.2]
  · rw [Option.toList_none, Device.keysIn, List.filter_eq_nil_iff]
    intro other hother hnew
    obtain ⟨hkind, hstate⟩ := SecurityKey.is_iff.mp hnew
    rcases hothers other hother hkind with rfl | hexpired
    · rw [hvalid t ht.2] at hstate
      cases hstate
    · rw [SecurityKey.state_expired_mono hexpired ht.2] at hstate
      cases hstate

/-- After every exchange the meter uses the keys that are in use according to its record, or one
unconfirmed key of the record in place of one of them; and as soon as a session is opened without
anything going wrong, the record is right again. -/
theorem exchanged_not_locked_out (hregistry : registry.IsCatalogued) (hs : s.Settled decrypt)
    (h : Exchanged decrypt registry settings identification s t) :
    (∃ valid new, t.Keys decrypt valid new) ∧
    (∃ r d u, Dialogue.Runs (faultless decrypt always) (Exchange.openSession.run.run t.stored) t
      (r, d) u) ∧
    ∀ r d u, Dialogue.Runs (faultless decrypt always) (Exchange.openSession.run.run t.stored) t
        (r, d) u →
      (∃ session, r = .ok session) ∧ u.meter = t.meter ∧ u.stored = d ∧
        ∀ kind, u.Agrees decrypt always d kind := by
  have ht : t.Recoverable decrypt := h.recoverable hregistry (.inl hs.confirmed)
  obtain ⟨valid, new, hkeys⟩ := ht.exists_keys
  refine ⟨⟨valid, new, hkeys⟩, Exchange.exists_runs_openSession decrypt t.stored trivial, ?_⟩
  intro r d u hruns
  obtain ⟨htu, hopened⟩ :=
    Exchange.ensures_openSession_faultless (fun kind _ => hkeys.holds kind) _ u hruns
  cases r with
  | error failure =>
      rcases hkeys.accepts_tried with haccepts | ⟨recovery, hrecovery, haccepts⟩
      · exact absurd haccepts hopened.1.1
      · exact absurd haccepts (hopened.1.2 recovery hrecovery)
  | ok session =>
      obtain ⟨_, hsettles, hstored⟩ := hopened
      refine ⟨⟨session, rfl⟩, htu.meter, ?_, hkeys.confirmed_of_settles htu hsettles⟩
      rcases hstored with hstored | ⟨hd, hstored⟩
      · exact hstored
      · exact hstored.trans hd.symm

/-! ## A lost answer -/

/-- The site after its meter carried out a call, if that is a transfer of an encryption key which the
meter can open. -/
def carriedOut (s : Site) : MethodCall → Site
  | ⟨64, ⟨0, 0, 43, 0, 0, 255⟩, 2, some (.array [.tuple [.enumerate 0, .octets wrapped]])⟩ =>
    match Cipher.KeyWrap.unwrap Cipher.Aes.cipher (s.meter .master) wrapped with
    | .ok key => { s with meter := fun kind => if kind = .encryption then key else s.meter kind }
    | .error _ => s
  | _ => s

theorem applies_carriedOut (s : Site) (call : MethodCall) :
    Applies call s (s.carriedOut call) ∨ s.carriedOut call = s := by
  unfold carriedOut
  split
  · split
    · exact .inl ⟨.globalUnicastEncryption, _, .encryption, _, rfl, rfl, ‹_›, rfl⟩
    · exact .inr rfl
  · exact .inr rfl

theorem carriedOut_transfer {wrapped key : List UInt8}
    (h : Cipher.KeyWrap.wrap Cipher.Aes.cipher (s.meter .master) key = .ok wrapped) :
    s.carriedOut (KeyChange.transfer .globalUnicastEncryption wrapped) =
      { s with meter := fun kind => if kind = .encryption then key else s.meter kind } := by
  have hcarried : s.carriedOut (KeyChange.transfer .globalUnicastEncryption wrapped) =
      match Cipher.KeyWrap.unwrap Cipher.Aes.cipher (s.meter .master) wrapped with
      | .ok key => { s with meter := fun kind => if kind = .encryption then key else s.meter kind }
      | .error _ => s := rfl
  rw [hcarried, KeyChange.unwrap_of_wrap h]

/-- A world in which nothing goes wrong but that the answers to calls are lost, which the meter
carries out all the same. -/
def lossyWorld : (question : Exchange.Question) → Site → Exchange.Answer question × Site
  | .session .clock, s => (s.clock, s)
  | .session (.save device), s => (.ok device, { s with stored := device })
  | .session (.call call), s => (.error .timeout, s.carriedOut call)
  | .session question, s => (obligingAnswer question, s)
  | .acquire _, s => ((), s)
  | .release _, s => ((), s)
  | .load _, s => (.ok s.stored, s)
  | .connect _ credentials, s =>
    (if s.Accepts some credentials then .ok () else .error .timeout, s)
  | .close, s => (.ok (), s)

def lossyRules : Rules Exchange.Answer Site :=
  fun question s answer t => lossyWorld question s = (answer, t)

theorem exchanges_of_lossyRules (question : Exchange.Question) (s : Site)
    (answer : Exchange.Answer question) (t : Site) (h : lossyRules question s answer t) :
    exchanges some question s answer t := by
  rcases question with question | _ | _ | _ | _ | _
  case session =>
    cases question <;> obtain ⟨rfl, rfl⟩ := Prod.mk.inj h
    case clock => exact ⟨Instant.le_refl s.clock, rfl⟩
    case save => exact .inl ⟨rfl, rfl⟩
    case call call =>
      rcases s.applies_carriedOut call with happlies | hsame
      · exact .inl happlies
      · exact .inr ⟨hsame, fun hsuccess => by cases hsuccess⟩
    case decrypt => exact ⟨rfl, fun key hkey => congrArg some (Except.ok.inj hkey)⟩
    all_goals rfl
  all_goals obtain ⟨rfl, rfl⟩ := Prod.mk.inj h
  case load => exact ⟨rfl, .inl rfl⟩
  case connect device credentials =>
    refine ⟨rfl, ?_⟩
    split
    · exact .inl ⟨rfl, ‹_›⟩
    · exact .inr ⟨.timeout, rfl, rfl⟩
  all_goals rfl

/-- A transfer takes effect, but that is not known. -/
theorem ensures_deliver_lossyRules {change : KeyChange} {master : SecurityKey}
    {wrapped : List UInt8} (hmaster : master.plain? some = some (s.meter .master))
    (hwrap : Cipher.KeyWrap.wrap Cipher.Aes.cipher (s.meter .master) change.material =
      .ok wrapped) :
    Task.Ensures (Exchange.sessionRules lossyRules)
      (change.deliver .globalUnicastEncryption master) device s fun r _ t =>
        r = .error .timeout ∧ t = { s with
          meter := fun kind => if kind = .encryption then change.material else s.meter kind } := by
  obtain ⟨data, hdata, hdecrypt⟩ := decode_of_plain? hmaster
  obtain rfl : data = s.meter .master := Option.some.inj hdecrypt
  rw [KeyChange.deliver, Task.ensures_bind, KeyChange.ensures_decryptStored, hdata]
  intro answer t hanswer
  obtain ⟨rfl, rfl⟩ := Prod.mk.inj hanswer
  dsimp only [obligingAnswer]
  rw [Task.ensures_bind]
  refine Operation.ensures_decrypt.mpr fun answer t hanswer => ?_
  obtain ⟨rfl, rfl⟩ := Prod.mk.inj hanswer
  dsimp only [obligingAnswer]
  rw [hwrap, Task.ensures_bind, Operation.ensures_lift]
  dsimp only [Except.mapError]
  rw [Task.ensures_bind, Operation.ensures_describe]
  intro t hdescribed
  obtain ⟨-, rfl⟩ := Prod.mk.inj hdescribed
  dsimp only
  rw [Task.ensures_bind]
  refine Operation.ensures_callMethod.mpr fun answer t hcalled => ?_
  obtain ⟨rfl, rfl⟩ := Prod.mk.inj hcalled
  exact ⟨rfl, carriedOut_transfer hwrap⟩

/-- A meter with the keys of its record. -/
def keyedSite : Site where
  clock := ⟨0, 0⟩
  stored := keyedDevice
  meter
    | .master => List.replicate 16 1
    | .authentication => List.replicate 16 2
    | .encryption => List.replicate 16 3

theorem settled_keyedSite : keyedSite.Settled some := by
  intro kind
  cases kind with
  | _ =>
      refine ⟨_, rfl, rfl, SecurityKey.plain?_text .., ?_⟩
      simp [keyedSite, keyedDevice]

def renewal : KeyChange := ⟨.encryption, List.replicate 16 5⟩

/-- The meter uses the new key, which is not confirmed in its record. -/
def renewedSite : Site where
  clock := ⟨0, 0⟩
  stored := keyedDevice.addNewKey .encryption (Hex.text renewal.material) ⟨0, 0⟩
  meter kind := if kind = .encryption then renewal.material else keyedSite.meter kind

theorem ensures_renewal :
    Task.Ensures (Exchange.sessionRules lossyRules) renewal.execute keyedDevice keyedSite
      fun r _ t => r = .error .timeout ∧ t = renewedSite := by
  -- The wrapped key is not computed: whatever it is, the meter finds the new key in it.
  obtain ⟨wrapped, hwrap, -⟩ : ∃ wrapped, Cipher.KeyWrap.wrap Cipher.Aes.cipher
      (List.replicate 16 1) renewal.material = .ok wrapped ∧ _ :=
    Cipher.KeyWrap.exists_wrap _ rfl (by decide) (by decide)
  have hmaster : (SecurityKey.mk .master (Hex.text (List.replicate 16 1)) (some ⟨0, 0⟩) none).plain?
      some = some (keyedSite.meter .master) := SecurityKey.plain?_text ..
  refine KeyChange.ensures_execute.mpr fun now s hclock => ?_
  obtain ⟨rfl, rfl⟩ := Prod.mk.inj hclock
  change Task.Ensures _ (renewal.proceed .globalUnicastEncryption
    ⟨.master, Hex.text (List.replicate 16 1), some ⟨0, 0⟩, none⟩) _ _ _
  rw [KeyChange.proceed, Task.ensures_bind]
  refine KeyChange.ensures_stage.mpr fun now s hclock answer t hsave => ?_
  obtain ⟨rfl, rfl⟩ := Prod.mk.inj hclock
  obtain ⟨rfl, rfl⟩ := Prod.mk.inj hsave
  dsimp only
  rw [Task.ensures_bind]
  refine Task.Ensures.imp (ensures_deliver_lossyRules hmaster hwrap) ?_
  rintro r d t ⟨rfl, rfl⟩
  exact ⟨rfl, rfl⟩

theorem runs_renewal : Dialogue.Runs (exchanges some)
    (Exchange.handleOperation "meter" renewal.execute) keyedSite (.error .timeout) renewedSite := by
  have hopen : Dialogue.Runs lossyRules (Exchange.openSession.run.run keyedDevice) keyedSite
      (.ok ⟨false⟩, keyedDevice) keyedSite := (Dialogue.runs_iff_run_eq lossyWorld).mpr rfl
  obtain ⟨⟨r, d⟩, t, hexecute⟩ : ∃ r t, Dialogue.Runs (Exchange.sessionRules lossyRules)
      (renewal.execute.run.run keyedDevice) keyedSite r t :=
    ⟨_, _, (Dialogue.runs_iff_run_eq fun question => lossyWorld (.session question)).mpr rfl⟩
  obtain ⟨rfl, rfl⟩ := ensures_renewal _ _ hexecute
  refine Dialogue.Runs.mono ?_ exchanges_of_lossyRules
  exact Exchange.runs_withSession_iff.mpr (.carried rfl rfl hopen hexecute rfl rfl)

/-- The meter takes a new key into use and its answer is lost. The next session finds the key that is
not confirmed, and ends the doubt. -/
theorem exchanged_not_locked_out_of_lost_answer :
    Dialogue.Runs (exchanges some) (Exchange.handleOperation "meter" renewal.execute) keyedSite
      (.error .timeout) renewedSite ∧
    ∃ registry, Registry.standard = .ok registry ∧ keyedSite.Settled some ∧
      Exchanged some registry {} "meter" keyedSite renewedSite ∧
      (∃ valid new, renewedSite.Keys some valid new) ∧
      ∃ session d t, Dialogue.Runs (faultless some always)
          (Exchange.openSession.run.run renewedSite.stored) renewedSite (.ok session, d) t ∧
        t.meter .encryption = List.replicate 16 5 ∧ t.stored = d ∧
        ∀ kind, t.Agrees some always d kind := by
  obtain ⟨registry, hregistry⟩ : ∃ registry, Registry.standard = .ok registry := ⟨_, rfl⟩
  have hexchanged : Exchanged some registry {} "meter" keyedSite renewedSite :=
    .replaceKey renewal .start runs_renewal
  obtain ⟨hkeys, ⟨r, d, t, hruns⟩, hopened⟩ := exchanged_not_locked_out
    (Registry.isCatalogued_of_standard hregistry) settled_keyedSite hexchanged
  obtain ⟨⟨session, rfl⟩, hmeter, hstored, hagrees⟩ := hopened r d t hruns
  refine ⟨runs_renewal, registry, hregistry, settled_keyedSite, hexchanged, hkeys, session, d, t,
    hruns, ?_, hstored, hagrees⟩
  rw [hmeter]
  rfl

end HeadEnd.Site
