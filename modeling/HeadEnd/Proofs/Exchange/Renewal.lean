import HeadEnd.Proofs.Exchange.Site
import HeadEnd.Proofs.Key.Change

/-! # Key changes at a site

However a key change ends, what is stored tells the keys of the meter up to one doubt: of the kind
that was changed, the meter uses the old key or the new one, and both are stored.
-/

namespace HeadEnd.Site

variable {decrypt : List UInt8 → Option (List UInt8)} {device : Device} {kind : KeyKind}
  {new : SecurityKey} {s t : Site} {now : Instant}

abbrev always : Instant → Prop := fun _ => True

variable (decrypt) in
/-- The record tells which keys the meter uses. -/
def Confirmed (s : Site) (device : Device) : Prop :=
  ∀ kind, s.Agrees decrypt always device kind

variable (decrypt) in
/-- The record tells which keys the meter uses, except that of one kind it may use the unconfirmed
key `new` already. -/
structure Doubtful (s : Site) (device : Device) (kind : KeyKind) (new : SecurityKey) : Prop where
  changeable : kind ≠ .master
  others : ∀ j, j ≠ kind → s.Agrees decrypt always device j
  doubt : ∃ valid, device.Holds kind valid (some new) (s.Later always) ∧
    (valid.plain? decrypt = some (s.meter kind) ∨ new.plain? decrypt = some (s.meter kind))

variable (decrypt) in
/-- What is stored leads to the keys that the meter uses. -/
def Recoverable (s : Site) : Prop :=
  s.Confirmed decrypt s.stored ∨ ∃ kind new, s.Doubtful decrypt s.stored kind new

/-! ## From one state to the next -/

theorem Confirmed.onward (h : s.Confirmed decrypt device) (hst : s.Onward t) :
    t.Confirmed decrypt device :=
  fun kind => (h kind).onward hst

theorem Doubtful.onward (h : s.Doubtful decrypt device kind new) (hst : s.Onward t) :
    t.Doubtful decrypt device kind new := by
  obtain ⟨valid, hholds, hplain⟩ := h.doubt
  refine ⟨h.changeable, fun j hj => (h.others j hj).onward hst, valid, ?_, ?_⟩
  · exact hholds.mono fun _ => hst.later
  · rw [hst.meter]
    exact hplain

theorem Recoverable.onward (h : s.Recoverable decrypt) (hst : s.Onward t)
    (hstored : t.stored = s.stored) : t.Recoverable decrypt := by
  rw [Recoverable, hstored]
  exact h.imp (·.onward hst) fun ⟨kind, new, hdoubt⟩ => ⟨kind, new, hdoubt.onward hst⟩

/-- Staging a key brings no more than the doubt whether the meter will use it. -/
theorem Confirmed.addNewKey (h : s.Confirmed decrypt device) (hkind : kind ≠ .master)
    (hnow : s.Later always now) (material : String) :
    s.Doubtful decrypt (device.addNewKey kind material now) kind (.unconfirmed kind material) := by
  refine ⟨hkind, ?_, ?_⟩
  · intro j hj
    obtain ⟨key, hholds, hplain⟩ := h j
    exact ⟨key, hholds.addNewKey_of_ne hj, hplain⟩
  · obtain ⟨key, hholds, hplain⟩ := h kind
    exact ⟨key, hholds.addNewKey hnow, .inl hplain⟩

/-- The keys of the meter after it took one over. -/
theorem Doubtful.takeOver (h : s.Doubtful decrypt device kind new) {key : List UInt8}
    (hplain : new.plain? decrypt = some key) :
    Doubtful decrypt { s with meter := fun j => if j = kind then key else s.meter j } device kind
      new := by
  obtain ⟨valid, hholds, _⟩ := h.doubt
  refine ⟨h.changeable, ?_, valid, hholds, .inr ?_⟩
  · intro j hj
    obtain ⟨old, hold, hplain⟩ := h.others j hj
    refine ⟨old, hold, ?_⟩
    rw [hplain]
    simp [hj]
  · rw [hplain]
    simp

/-- Promoting a key ends the doubt if the meter uses the key. -/
theorem Doubtful.promoteNewKey (h : s.Doubtful decrypt device kind new)
    (hplain : new.plain? decrypt = some (s.meter kind)) (hnow : s.Later always now) :
    ∃ promoted, device.promoteNewKey kind now = .ok promoted ∧
      ∀ t, s.Onward t → now ≤ t.clock → t.Confirmed decrypt promoted := by
  obtain ⟨valid, hholds, _⟩ := h.doubt
  obtain ⟨promoted, hpromoted, hbegun⟩ := hholds.promoteNewKey hnow
  refine ⟨promoted, hpromoted, fun t hst hclock j => ?_⟩
  by_cases hj : j = kind
  · subst hj
    refine ⟨new.begunAt now, hbegun.mono fun i hi => ?_, ?_⟩
    · exact ⟨hst.later hi, Instant.le_trans hclock hi.2⟩
    · rw [hst.meter]
      exact hplain
  · obtain ⟨key, hkey, hkeyPlain⟩ := (h.others j hj).onward hst
    exact ⟨key, hkey.promoteNewKey_of_ne hj hpromoted, hkeyPlain⟩

/-! ## The steps of a key change -/

theorem ensures_stage {change : KeyChange} (hkind : change.kind ≠ .master)
    (h : s.Confirmed decrypt device) (hstored : s.stored = device) :
    Task.Ensures (sessions decrypt) change.stage device s fun r d t =>
      match r with
      | .ok () => s.Onward t ∧ t.stored = d ∧ t.Doubtful decrypt d change.kind
          (.unconfirmed change.kind (Hex.text change.material))
      | .error _ => t.Recoverable decrypt := by
  rw [KeyChange.ensures_stage]
  rintro now _ ⟨hle, rfl⟩ answer u hsave
  have hdoubt := h.addNewKey hkind ⟨trivial, hle⟩ (Hex.text change.material)
  have hst : ∀ stored, s.Onward { s with clock := now, stored := stored } := fun _ => ⟨rfl, hle⟩
  rcases hsave with ⟨rfl, rfl⟩ | ⟨failure, rfl, rfl | rfl⟩
  · exact ⟨hst _, rfl, hdoubt.onward (hst _)⟩
  · rw [← hstored] at h
    exact .inl (h.onward (hst _))
  · exact .inr ⟨_, _, hdoubt.onward (hst _)⟩

theorem ensures_confirm (h : s.Doubtful decrypt device kind new)
    (hplain : new.plain? decrypt = some (s.meter kind)) (hstored : s.stored = device) :
    Task.Ensures (sessions decrypt) (KeyChange.confirm kind) device s fun r d t =>
      match r with
      | .ok () => t.Confirmed decrypt d ∧ t.stored = d
      | .error _ => t.Recoverable decrypt := by
  rw [KeyChange.ensures_confirm]
  rintro now _ ⟨hle, rfl⟩
  obtain ⟨promoted, hpromoted, hconfirmed⟩ := h.promoteNewKey hplain ⟨trivial, hle⟩
  have hst : ∀ stored, s.Onward { s with clock := now, stored := stored } := fun _ => ⟨rfl, hle⟩
  have hnow : ∀ stored, Confirmed decrypt { s with clock := now, stored := stored } promoted :=
    fun stored => hconfirmed _ (hst stored) (Instant.le_refl now)
  rw [hpromoted]
  intro answer u hsave
  rcases hsave with ⟨rfl, rfl⟩ | ⟨failure, rfl, rfl | rfl⟩
  · exact ⟨hnow _, rfl⟩
  · rw [← hstored] at h
    exact .inr ⟨_, _, h.onward (hst _)⟩
  · exact .inl (hnow _)

/-- The meter finds the new key in the transfer, if it carries it out at all. -/
theorem Doubtful.call {role : KeyRole} {wrapped newKey : List UInt8}
    {answer : Outcome MethodResult} (h : s.Doubtful decrypt device kind new)
    (hnew : new.plain? decrypt = some newKey) (hrole : role.kind? = some kind)
    (hwrap : Cipher.KeyWrap.wrap Cipher.Aes.cipher (s.meter .master) newKey = .ok wrapped)
    (hcall : sessions decrypt (.call (KeyChange.transfer role wrapped)) s answer t) :
    t.stored = s.stored ∧ t.Doubtful decrypt device kind new ∧
      (answer = .ok .success → new.plain? decrypt = some (t.meter kind)) := by
  rcases hcall with ⟨role', wrapped', kind', key, htransfer, hrole', hunwrap, rfl⟩ | ⟨rfl, hanswer⟩
  · obtain ⟨rfl, rfl⟩ := KeyChange.transfer_inj htransfer
    obtain rfl : kind = kind' := Option.some.inj (hrole.symm.trans hrole')
    obtain rfl : newKey = key :=
      Except.ok.inj ((KeyChange.unwrap_of_wrap hwrap).symm.trans hunwrap)
    refine ⟨rfl, h.takeOver hnew, fun _ => ?_⟩
    rw [hnew]
    simp
  · exact ⟨rfl, h, fun hsuccess => absurd rfl (hanswer hsuccess role wrapped)⟩

theorem decode_of_plain? {key : SecurityKey} {plain : List UInt8}
    (h : key.plain? decrypt = some plain) :
    ∃ data, Hex.decode key.material.toList = .ok data ∧ decrypt data = some plain := by
  unfold SecurityKey.plain? at h
  split at h
  · rename_i data hdata
    exact ⟨data, hdata, h⟩
  · cases h

theorem kind?_of_transferRole {role : KeyRole} (h : kind.transferRole = .ok role) :
    kind ≠ .master ∧ role.kind? = some kind := by
  cases kind with
  | master => cases h
  | authentication =>
      cases h
      exact ⟨by decide, rfl⟩
  | encryption =>
      cases h
      exact ⟨by decide, rfl⟩

/-- Whatever goes wrong on the way to the meter, the doubt remains what it was; if the meter reports
success, it uses the new key. -/
theorem ensures_deliver {change : KeyChange} {role : KeyRole} {master : SecurityKey}
    (h : s.Doubtful decrypt device change.kind
      (.unconfirmed change.kind (Hex.text change.material)))
    (hrole : role.kind? = some change.kind)
    (hmaster : master.plain? decrypt = some (s.meter .master)) :
    Task.Ensures (sessions decrypt) (change.deliver role master) device s fun r d t =>
      d = device ∧ t.stored = s.stored ∧
      t.Doubtful decrypt device change.kind (.unconfirmed change.kind (Hex.text change.material)) ∧
      ∀ newKey, r = .ok newKey →
        (SecurityKey.unconfirmed change.kind (Hex.text change.material)).plain? decrypt =
          some (t.meter change.kind) := by
  obtain ⟨data, hdata, hdecrypt⟩ := decode_of_plain? hmaster
  rw [KeyChange.deliver, Task.ensures_bind, KeyChange.ensures_decryptStored, hdata]
  rintro answer s ⟨rfl, hmasterKey⟩
  rcases answer with failure | masterKey
  · exact ⟨rfl, rfl, h, fun _ hok => by cases hok⟩
  obtain rfl : s.meter .master = masterKey :=
    Option.some.inj (hdecrypt.symm.trans (hmasterKey masterKey rfl))
  dsimp only
  rw [Task.ensures_bind]
  refine Operation.ensures_decrypt.mpr ?_
  rintro answer s ⟨rfl, hnewKey⟩
  rcases answer with failure | newKey
  · exact ⟨rfl, rfl, h, fun _ hok => by cases hok⟩
  have hnew := (SecurityKey.plain?_unconfirmed change.kind change.material).trans
    (hnewKey newKey rfl)
  dsimp only
  rw [Task.ensures_bind, Operation.ensures_lift]
  cases hwrap : Cipher.KeyWrap.wrap Cipher.Aes.cipher (s.meter .master) newKey with
  | error fault => exact ⟨rfl, rfl, h, fun _ hok => by cases hok⟩
  | ok wrapped =>
      dsimp only [Except.mapError]
      rw [Task.ensures_bind, Operation.ensures_describe]
      rintro s rfl
      dsimp only
      rw [Task.ensures_bind]
      refine Operation.ensures_callMethod.mpr fun answer t hcall => ?_
      obtain ⟨hstored, ht, htNew⟩ := h.call hnew hrole hwrap hcall
      rcases answer with failure | result
      · exact ⟨rfl, hstored, ht, fun _ hok => by cases hok⟩
      dsimp only
      rw [Task.ensures_bind, Operation.ensures_lift]
      cases hcheck : result.check ("replace " ++ change.kind.label ++ " key") with
      | error failure => exact ⟨rfl, hstored, ht, fun _ hok => by cases hok⟩
      | ok _ =>
          obtain rfl := MethodResult.check_eq_ok_iff.mp hcheck
          exact Task.ensures_pure.mpr ⟨rfl, hstored, ht, fun _ _ => htNew rfl⟩

theorem ensures_proceed {change : KeyChange} {role : KeyRole} {master : SecurityKey}
    (hrole : change.kind.transferRole = .ok role) (h : s.Confirmed decrypt device)
    (hstored : s.stored = device) (hmaster : master.plain? decrypt = some (s.meter .master)) :
    Task.Ensures (sessions decrypt) (change.proceed role master) device s fun r d t =>
      match r with
      | .ok () => t.Confirmed decrypt d ∧ t.stored = d
      | .error _ => t.Recoverable decrypt := by
  obtain ⟨hkind, hroleKind⟩ := kind?_of_transferRole hrole
  rw [KeyChange.proceed, Task.ensures_bind]
  refine (ensures_stage hkind h hstored).imp ?_
  rintro (_ | _) d t hstage
  · exact hstage
  obtain ⟨hst, ht, hdoubt⟩ := hstage
  rw [← hst.meter] at hmaster
  dsimp only
  rw [Task.ensures_bind]
  refine (ensures_deliver hdoubt hroleKind hmaster).imp ?_
  -- From here on the record holds both keys, and the meter uses one of them.
  rintro (failure | newKey) d' u ⟨rfl, hu, hdoubt, hnew⟩
  · exact .inr ⟨_, _, (hu.trans ht) ▸ hdoubt⟩
  dsimp only
  rw [Task.ensures_bind]
  refine Operation.ensures_adoptKey.mpr ?_
  rintro answer u rfl
  rcases answer with failure | _
  · exact .inr ⟨_, _, (hu.trans ht) ▸ hdoubt⟩
  exact ensures_confirm hdoubt (hnew newKey rfl) (hu.trans ht)

/-- A key change that succeeds leaves no doubt, and one that fails leaves the meter within reach. -/
theorem ensures_execute (change : KeyChange) (h : s.Confirmed decrypt device)
    (hstored : s.stored = device) :
    Task.Ensures (sessions decrypt) change.execute device s fun r d t =>
      match r with
      | .ok () => t.Confirmed decrypt d ∧ t.stored = d
      | .error _ => t.Recoverable decrypt := by
  have hrecoverable : s.Recoverable decrypt := .inl (hstored ▸ h)
  rw [KeyChange.ensures_execute]
  cases hrole : change.kind.transferRole with
  | error failure => exact hrecoverable
  | ok role =>
      rintro now _ ⟨hle, rfl⟩
      have hst : s.Onward { s with clock := now } := ⟨rfl, hle⟩
      obtain ⟨master, hmaster, hmasterPlain⟩ := h .master
      obtain ⟨old, hold, _⟩ := h change.kind
      rw [Device.validKey, Device.validKey, hmaster.validKey? ⟨trivial, hle⟩,
        hold.validKey? ⟨trivial, hle⟩]
      exact ensures_proceed hrole (h.onward hst) hstored hmasterPlain

/-- The second key is only changed when there is no doubt about the first. -/
theorem ensures_executePair (keys : KeyPair) (h : s.Confirmed decrypt device)
    (hstored : s.stored = device) :
    Task.Ensures (sessions decrypt) keys.execute device s fun r d t =>
      match r with
      | .ok _ => t.Confirmed decrypt d ∧ t.stored = d
      | .error _ => t.Recoverable decrypt := by
  rw [KeyPair.execute, Task.ensures_bind]
  refine (ensures_execute _ h hstored).imp ?_
  rintro (failure | _) d t hfirst
  · exact hfirst
  · dsimp only
    rw [Task.ensures_bind]
    refine (ensures_execute _ hfirst.1 hfirst.2).imp ?_
    rintro (failure | _) d t hsecond
    · exact hsecond
    · dsimp only
      rw [Task.ensures_bind, Task.ensures_get]
      exact Task.ensures_pure.mpr hsecond

end HeadEnd.Site
