import HeadEnd.Device

/-! # Keys over time

What a key is at one instant tells something of what it is at a later one. A device is described by
the keys that it holds throughout a period: which key of a kind is in use, and which is unconfirmed.
-/

namespace HeadEnd

namespace Instant

theorem le_refl (t : Instant) : t ≤ t :=
  .inr ⟨rfl, Nat.le_refl _⟩

theorem le_trans {r s t : Instant} (hrs : r ≤ s) (hst : s ≤ t) : r ≤ t := by
  change Instant.le r s at hrs
  change Instant.le s t at hst
  change Instant.le r t
  unfold Instant.le at *
  omega

end Instant

namespace SecurityKey

variable {key : SecurityKey} {kind j : KeyKind} {state : KeyState} {time : Option Instant}
  {now t : Instant}

/-! ## The states of a key -/

theorem hasCome_mono (h : hasCome time now = true) (ht : now ≤ t) : hasCome time t = true := by
  cases time with
  | none => cases h
  | some end' =>
      have hend : end' ≤ now := of_decide_eq_true h
      exact decide_eq_true (Instant.le_trans hend ht)

theorem hasCome_some_self (now : Instant) : hasCome (some now) now = true :=
  decide_eq_true (Instant.le_refl now)

theorem state_eq_expired_iff : key.state t = .expired ↔ hasCome key.validTo t = true := by
  unfold state
  split
  · simp_all
  · split
    · simp_all
    · split <;> simp_all

theorem state_eq_new_iff :
    key.state t = .new ↔ hasCome key.validTo t = false ∧ key.validFrom = none := by
  unfold state
  split
  · simp_all
  · split
    · simp_all
    · split <;> simp_all

theorem state_eq_valid_iff :
    key.state t = .valid ↔ hasCome key.validTo t = false ∧ hasCome key.validFrom t = true := by
  unfold state
  split
  · simp_all
  · split
    · simp_all [hasCome]
    · split <;> simp_all

theorem state_eq_notYetValid_iff : key.state t = .notYetValid ↔
    hasCome key.validTo t = false ∧ key.validFrom ≠ none ∧ hasCome key.validFrom t = false := by
  unfold state
  split
  · simp_all
  · split
    · simp_all
    · split <;> simp_all

theorem is_iff : key.is kind state t = true ↔ key.kind = kind ∧ key.state t = state := by
  simp [is, isIn]

/-- A key does not come back into use. -/
theorem state_expired_mono (h : key.state now = .expired) (ht : now ≤ t) :
    key.state t = .expired :=
  state_eq_expired_iff.mpr (hasCome_mono (state_eq_expired_iff.mp h) ht)

/-- A key that is to be used later was so before. -/
theorem state_notYetValid_of_le (h : key.state t = .notYetValid) (ht : now ≤ t) :
    key.state now = .notYetValid := by
  obtain ⟨hend, hfrom, hcome⟩ := state_eq_notYetValid_iff.mp h
  refine state_eq_notYetValid_iff.mpr ⟨?_, hfrom, ?_⟩
  · exact Bool.eq_false_iff.mpr fun hnow => by simp [hasCome_mono hnow ht] at hend
  · exact Bool.eq_false_iff.mpr fun hnow => by simp [hasCome_mono hnow ht] at hcome

theorem is_eq_false_of_kind (h : key.kind ≠ kind) : key.is kind state t = false := by
  simp [is, h]

theorem is_eq_false_of_state (h : key.state t ≠ state) : key.is kind state t = false := by
  simp [is, isIn, h]

@[simp] theorem state_unconfirmed {material : String} :
    (unconfirmed kind material).state t = .new := rfl

theorem state_endedAt (ht : now ≤ t) : (key.endedAt now).state t = .expired :=
  state_eq_expired_iff.mpr (hasCome_mono (hasCome_some_self now) ht)

theorem state_begunAt (h : key.state t = .new) (ht : now ≤ t) :
    (key.begunAt now).state t = .valid :=
  state_eq_valid_iff.mpr ⟨(state_eq_new_iff.mp h).1, hasCome_mono (hasCome_some_self now) ht⟩

end SecurityKey

namespace Device

variable {device promoted : Device} {kind j : KeyKind} {state : KeyState} {now t : Instant}
  {keys keys' : List SecurityKey}

/-! ## The keys of a kind in a state -/

def keysIn (device : Device) (kind : KeyKind) (state : KeyState) (t : Instant) :
    List SecurityKey :=
  device.keys.filter fun key => key.is kind state t

theorem mem_keysIn {key : SecurityKey} :
    key ∈ device.keysIn kind state t ↔
      key ∈ device.keys ∧ key.kind = kind ∧ key.state t = state := by
  rw [keysIn, List.mem_filter, SecurityKey.is_iff]

theorem key?_eq : device.key? kind state t = (device.keysIn kind state t).head? := by
  rw [key?, keysIn, List.head?_filter]

theorem of_key? {key : SecurityKey} (h : device.key? kind state t = some key) :
    key ∈ device.keys ∧ key.kind = kind := by
  rw [key?_eq] at h
  obtain ⟨hmem, hkind, _⟩ := mem_keysIn.mp (List.mem_of_head? h)
  exact ⟨hmem, hkind⟩

theorem keysIn_discardNewKeys :
    (device.discardNewKeys kind now).keysIn j state t =
      (device.keysIn j state t).filter fun key => !key.is kind .new now := by
  simp only [keysIn, discardNewKeys, List.filter_filter, Bool.and_comm]

theorem keysIn_addNewKey {material : String} :
    (device.addNewKey kind material now).keysIn j state t =
      (device.discardNewKeys kind now).keysIn j state t ++
        [SecurityKey.unconfirmed kind material].filter fun key => key.is j state t := by
  rw [keysIn, keysIn, addNewKey, List.filter_append]

/-! ## Discarding -/

theorem discardNewKeys_eq_self_of_length
    (h : ¬ (device.discardNewKeys kind now).keys.length < device.keys.length) :
    device.discardNewKeys kind now = device := by
  have hkeys : (device.keys.filter fun key => !key.is kind .new now) = device.keys :=
    (List.filter_sublist (l := device.keys)).eq_of_length_le (Nat.le_of_not_lt h)
  rw [discardNewKeys, hkeys]

theorem discardNewKeys_eq_self_of_hasNewKeys (h : device.hasNewKeys now = false) :
    device.discardNewKeys kind now = device := by
  have hkeys : (device.keys.filter fun key => !key.is kind .new now) = device.keys := by
    rw [List.filter_eq_self]
    intro key hkey
    have hnew : key.isIn .new now = false := by simpa using List.any_eq_false.mp h key hkey
    simp [SecurityKey.is, hnew]
  rw [discardNewKeys, hkeys]

/-! ## Promotion -/

/-- Ending the keys in use leaves alone what satisfies `p` if it does not bear on `p`. -/
theorem filter_endValidKeys {p : SecurityKey → Bool}
    (hended : ∀ k, k.is kind .valid now = true → p k = false ∧ p (k.endedAt now) = false)
    (keys : List SecurityKey) : (endValidKeys kind now keys).filter p = keys.filter p := by
  induction keys with
  | nil => rfl
  | cons k keys ih =>
      rw [endValidKeys] at ih ⊢
      rw [List.map_cons]
      by_cases hk : k.is kind .valid now = true
      · obtain ⟨hbefore, hafter⟩ := hended k hk
        rw [if_pos hk, List.filter_cons_of_neg (by simp [hafter]),
          List.filter_cons_of_neg (by simp [hbefore]), ih]
      · rw [if_neg hk, List.filter_cons, List.filter_cons, ih]

theorem filter_endValidKeys_of_ne (hj : j ≠ kind) (keys : List SecurityKey) :
    ((endValidKeys kind now keys).filter fun key => key.is j state t) =
      keys.filter fun key => key.is j state t := by
  refine filter_endValidKeys (fun k hk => ?_) keys
  have hkind : k.kind ≠ j := by
    rw [(SecurityKey.is_iff.mp hk).1]
    exact Ne.symm hj
  exact ⟨SecurityKey.is_eq_false_of_kind hkind, SecurityKey.is_eq_false_of_kind hkind⟩

theorem filter_endValidKeys_new (keys : List SecurityKey) :
    ((endValidKeys kind now keys).filter fun key => key.is j .new t) =
      keys.filter fun key => key.is j .new t := by
  refine filter_endValidKeys (fun k hk => ?_) keys
  have hfrom : k.validFrom ≠ none := by
    intro hnone
    have hcome := (SecurityKey.state_eq_valid_iff.mp (SecurityKey.is_iff.mp hk).2).2
    rw [hnone] at hcome
    cases hcome
  exact ⟨SecurityKey.is_eq_false_of_state fun h => hfrom (SecurityKey.state_eq_new_iff.mp h).2,
    SecurityKey.is_eq_false_of_state fun h => hfrom (SecurityKey.state_eq_new_iff.mp h).2⟩

theorem filter_endValidKeys_valid (ht : now ≤ t)
    (hkeys : ∀ k ∈ keys, k.is kind .valid t = true → k.is kind .valid now = true) :
    ((endValidKeys kind now keys).filter fun key => key.is kind .valid t) = [] := by
  rw [List.filter_eq_nil_iff]
  intro key hkey hvalid
  obtain ⟨k, hk, rfl⟩ := List.mem_map.mp hkey
  by_cases hnow : k.is kind .valid now = true
  · rw [if_pos hnow, SecurityKey.is_eq_false_of_state] at hvalid
    · cases hvalid
    · rw [SecurityKey.state_endedAt ht]
      decide
  · rw [if_neg hnow] at hvalid
    exact hnow (hkeys k hk hvalid)

/-- Among the keys that were ended, the one that is taken into use is the only one in use. -/
theorem filter_valid_begun {before after : List SecurityKey} {key : SecurityKey} (ht : now ≤ t)
    (hvalid : ∀ k ∈ keys, k.is kind .valid t = true → k.is kind .valid now = true)
    (hkeys : endValidKeys kind now keys = before ++ key :: after) (hkey : key.is kind .new t = true) :
    ((before ++ key.begunAt now :: after).filter fun k => k.is kind .valid t) =
      [key.begunAt now] := by
  obtain ⟨hkind, hstate⟩ := SecurityKey.is_iff.mp hkey
  have hbegun : (key.begunAt now).is kind .valid t = true :=
    SecurityKey.is_iff.mpr ⟨hkind, SecurityKey.state_begunAt hstate ht⟩
  have hended := filter_endValidKeys_valid ht hvalid
  rw [hkeys, List.filter_eq_nil_iff] at hended
  have hbefore : (before.filter fun k => k.is kind .valid t) = [] :=
    List.filter_eq_nil_iff.mpr fun k hk => hended k (List.mem_append_left _ hk)
  have hafter : (after.filter fun k => k.is kind .valid t) = [] :=
    List.filter_eq_nil_iff.mpr fun k hk =>
      hended k (List.mem_append_right _ (List.mem_cons_of_mem key hk))
  rw [List.filter_append, List.filter_cons, if_pos hbegun, hbefore, hafter, List.nil_append]

theorem beginNewKey?_append {before after : List SecurityKey} {key : SecurityKey}
    (hbefore : ∀ k ∈ before, k.is kind .new now = false) (hkey : key.is kind .new now = true) :
    beginNewKey? kind now (before ++ key :: after) =
      some (before ++ key.begunAt now :: after) := by
  induction before with
  | nil => simp [beginNewKey?, hkey]
  | cons k before ih =>
      have hk : k.is kind .new now = false := hbefore k List.mem_cons_self
      have hrest := ih fun k' hk' => hbefore k' (List.mem_cons_of_mem k hk')
      simp [beginNewKey?, hk, hrest]

theorem beginNewKey?_eq_none (h : ∀ k ∈ keys, k.is kind .new now = false) :
    beginNewKey? kind now keys = none := by
  induction keys with
  | nil => rfl
  | cons k keys ih =>
      have hk : k.is kind .new now = false := h k List.mem_cons_self
      have hrest := ih fun k' hk' => h k' (List.mem_cons_of_mem k hk')
      simp [beginNewKey?, hk, hrest]

/-- The first unconfirmed key is the one that is taken into use. -/
theorem beginNewKey?_eq_some (h : beginNewKey? kind now keys = some keys') :
    ∃ before key after, keys = before ++ key :: after ∧
      (∀ k ∈ before, k.is kind .new now = false) ∧ key.is kind .new now = true ∧
      keys' = before ++ key.begunAt now :: after := by
  cases hnew : keys.filter fun key => key.is kind .new now with
  | nil =>
      have hnone : ∀ k ∈ keys, k.is kind .new now = false := by
        simpa [List.filter_eq_nil_iff] using hnew
      rw [beginNewKey?_eq_none hnone] at h
      cases h
  | cons key rest =>
      obtain ⟨before, after, hkeys, hbefore, hkey, _⟩ := List.filter_eq_cons_iff.mp hnew
      have hbefore' : ∀ k ∈ before, k.is kind .new now = false := by simpa using hbefore
      rw [hkeys, beginNewKey?_append hbefore' hkey] at h
      exact ⟨before, key, after, hkeys, hbefore', hkey, (Option.some.inj h).symm⟩

theorem promoteNewKey_eq_ok (h : device.promoteNewKey kind now = .ok promoted) :
    ∃ before key after, endValidKeys kind now device.keys = before ++ key :: after ∧
      (∀ k ∈ before, k.is kind .new now = false) ∧ key.is kind .new now = true ∧
      promoted = { device with keys := before ++ key.begunAt now :: after } := by
  unfold promoteNewKey at h
  split at h
  · rename_i keys hkeys
    obtain ⟨before, key, after, hsplit, hbefore, hkey, rfl⟩ := beginNewKey?_eq_some hkeys
    exact ⟨before, key, after, hsplit, hbefore, hkey, (Except.ok.inj h).symm⟩
  · cases h

/-- Keys of the other kinds are left as they are. -/
theorem keysIn_promoteNewKey_of_ne (hj : j ≠ kind)
    (h : device.promoteNewKey kind now = .ok promoted) :
    promoted.keysIn j state t = device.keysIn j state t := by
  obtain ⟨before, key, after, hkeys, _, hkey, rfl⟩ := promoteNewKey_eq_ok h
  have hkind : key.kind ≠ j := by
    rw [(SecurityKey.is_iff.mp hkey).1]
    exact Ne.symm hj
  have hold : key.is j state t = false := SecurityKey.is_eq_false_of_kind hkind
  have hbegun : (key.begunAt now).is j state t = false := SecurityKey.is_eq_false_of_kind hkind
  calc keysIn { device with keys := before ++ key.begunAt now :: after } j state t
      = (before ++ key :: after).filter fun k => k.is j state t := by
        simp only [keysIn, List.filter_append, List.filter_cons, hold, hbegun,
          Bool.false_eq_true, if_false]
    _ = device.keysIn j state t := by
        rw [← hkeys, filter_endValidKeys_of_ne hj, keysIn]

/-! ## A staged key -/

variable {key : SecurityKey} {material : String}

theorem mem_addNewKey (device : Device) (kind : KeyKind) (material : String) (now : Instant) :
    SecurityKey.unconfirmed kind material ∈ (device.addNewKey kind material now).keys :=
  List.mem_append_right _ (List.mem_singleton_self _)

/-- Staging a key leaves the keys in use alone. -/
theorem keysIn_valid_addNewKey :
    (device.addNewKey kind material now).keysIn j .valid t = device.keysIn j .valid t := by
  have hkept : ∀ k ∈ device.keysIn j .valid t, (!k.is kind .new now) = true := by
    intro k hk
    have hvalid := (SecurityKey.state_eq_valid_iff.mp (mem_keysIn.mp hk).2.2).2
    have hnew : k.state now ≠ .new := by
      intro hnew
      rw [(SecurityKey.state_eq_new_iff.mp hnew).2] at hvalid
      cases hvalid
    simp [SecurityKey.is_eq_false_of_state hnew]
  have hunconfirmed : (SecurityKey.unconfirmed kind material).is j .valid t = false :=
    SecurityKey.is_eq_false_of_state (by simp)
  rw [keysIn_addNewKey, keysIn_discardNewKeys, List.filter_eq_self.mpr hkept]
  simp [hunconfirmed]

/-- From then on the staged key is the only unconfirmed one of its kind. -/
theorem keysIn_new_addNewKey (ht : now ≤ t) :
    (device.addNewKey kind material now).keysIn kind .new t =
      [SecurityKey.unconfirmed kind material] := by
  have hdiscarded : (device.discardNewKeys kind now).keysIn kind .new t = [] := by
    rw [keysIn_discardNewKeys, List.filter_eq_nil_iff]
    intro k hk
    obtain ⟨_, hkind, hstate⟩ := mem_keysIn.mp hk
    obtain ⟨hend, hfrom⟩ := SecurityKey.state_eq_new_iff.mp hstate
    have hnow : SecurityKey.hasCome k.validTo now = false := by
      cases hcome : SecurityKey.hasCome k.validTo now with
      | false => rfl
      | true =>
          rw [SecurityKey.hasCome_mono hcome ht] at hend
          cases hend
    have hnew : k.is kind .new now = true :=
      SecurityKey.is_iff.mpr ⟨hkind, SecurityKey.state_eq_new_iff.mpr ⟨hnow, hfrom⟩⟩
    simp [hnew]
  have hstaged : (SecurityKey.unconfirmed kind material).is kind .new t = true :=
    SecurityKey.is_iff.mpr ⟨rfl, rfl⟩
  rw [keysIn_addNewKey, hdiscarded]
  simp [hstaged]

/-- A staged key is unconfirmed still or in use after a promotion. -/
theorem mem_promoteNewKey_of_unconfirmed
    (hmem : SecurityKey.unconfirmed kind material ∈ device.keys)
    (h : device.promoteNewKey kind now = .ok promoted) :
    SecurityKey.unconfirmed kind material ∈ promoted.keys ∨
      (SecurityKey.unconfirmed kind material).begunAt now ∈ promoted.keys := by
  obtain ⟨before, key, after, hkeys, _, _, rfl⟩ := promoteNewKey_eq_ok h
  have hended : SecurityKey.unconfirmed kind material ∈ before ++ key :: after := by
    rw [← hkeys]
    refine List.mem_map.mpr ⟨_, hmem, ?_⟩
    rw [SecurityKey.is_eq_false_of_state (by simp)]
    rfl
  rcases List.mem_append.mp hended with hbefore | hafter
  · exact .inl (List.mem_append_left _ hbefore)
  · rcases List.mem_cons.mp hafter with rfl | hafter
    · exact .inr (List.mem_append_right _ List.mem_cons_self)
    · exact .inl (List.mem_append_right _ (List.mem_cons_of_mem _ hafter))

variable (now) in
theorem filter_new_endValidKeys_eq (hnew : device.keysIn kind .new t = [key]) :
    ((endValidKeys kind now device.keys).filter fun k => k.is kind .new t) = [key] := by
  rw [filter_endValidKeys_new]
  exact hnew

/-- The only unconfirmed key of a kind is the one that is promoted. -/
theorem exists_split_of_promoteNewKey (hnew : device.keysIn kind .new now = [key])
    (h : device.promoteNewKey kind now = .ok promoted) :
    ∃ before after, endValidKeys kind now device.keys = before ++ key :: after ∧
      promoted = { device with keys := before ++ key.begunAt now :: after } := by
  obtain ⟨before, first, after, hkeys, _, hfirst, rfl⟩ := promoteNewKey_eq_ok h
  have hmem : first ∈ (endValidKeys kind now device.keys).filter fun k => k.is kind .new now := by
    rw [hkeys]
    exact List.mem_filter.mpr ⟨List.mem_append_right _ List.mem_cons_self, hfirst⟩
  rw [filter_new_endValidKeys_eq now hnew, List.mem_singleton] at hmem
  subst hmem
  exact ⟨before, after, hkeys, rfl⟩

/-- An unconfirmed key can be promoted. -/
theorem exists_promoteNewKey_of_mem (hnew : key ∈ device.keysIn kind .new now) :
    ∃ promoted, device.promoteNewKey kind now = .ok promoted := by
  rw [keysIn, ← filter_endValidKeys_new] at hnew
  cases hfirst : (endValidKeys kind now device.keys).filter fun k => k.is kind .new now with
  | nil =>
      rw [hfirst] at hnew
      cases hnew
  | cons first rest =>
      obtain ⟨before, after, hkeys, hbefore, hkey, _⟩ := List.filter_eq_cons_iff.mp hfirst
      refine ⟨{ device with keys := before ++ first.begunAt now :: after }, ?_⟩
      rw [promoteNewKey, hkeys, beginNewKey?_append (by simpa using hbefore) hkey]

theorem exists_promoteNewKey (hnew : device.keysIn kind .new now = [key]) :
    ∃ promoted, device.promoteNewKey kind now = .ok promoted :=
  exists_promoteNewKey_of_mem (hnew ▸ List.mem_singleton_self key)

/-- From a promotion on the promoted key is in use in place of the keys that were. -/
theorem keysIn_valid_promoteNewKey (ht : now ≤ t)
    (hvalid : ∀ k ∈ device.keys, k.is kind .valid t = true → k.is kind .valid now = true)
    (hnew : device.keysIn kind .new now = [key]) (hkey : key.is kind .new t = true)
    (h : device.promoteNewKey kind now = .ok promoted) :
    promoted.keysIn kind .valid t = [key.begunAt now] := by
  obtain ⟨before, after, hkeys, rfl⟩ := exists_split_of_promoteNewKey hnew h
  exact filter_valid_begun ht hvalid hkeys hkey

/-- A promotion leaves no unconfirmed key. -/
theorem keysIn_new_promoteNewKey (ht : now ≤ t) (hnow : device.keysIn kind .new now = [key])
    (hnew : device.keysIn kind .new t = [key])
    (h : device.promoteNewKey kind now = .ok promoted) : promoted.keysIn kind .new t = [] := by
  obtain ⟨before, after, hkeys, rfl⟩ := exists_split_of_promoteNewKey hnow h
  have hkey : key.is kind .new t = true :=
    (List.mem_filter.mp (hnew ▸ List.mem_singleton_self key : key ∈ device.keysIn kind .new t)).2
  have hbegun : (key.begunAt now).is kind .new t = false := by
    apply SecurityKey.is_eq_false_of_state
    rw [SecurityKey.state_begunAt (SecurityKey.is_iff.mp hkey).2 ht]
    decide
  have hended := congrArg List.length (filter_new_endValidKeys_eq now hnew)
  simp only [hkeys, List.filter_append, List.filter_cons, hkey, if_true, List.length_append,
    List.length_cons, List.length_nil] at hended
  simp only [keysIn, List.filter_append, List.filter_cons, hbegun, Bool.false_eq_true, if_false,
    ← List.length_eq_zero_iff, List.length_append]
  omega

/-- A key that was in use is expired after a promotion. -/
theorem exists_expired_promoteNewKey {earlier : Instant}
    (hmem : key ∈ device.keysIn kind .valid earlier) (hnow : earlier ≤ now)
    (h : device.promoteNewKey kind now = .ok promoted) :
    ∃ ended ∈ promoted.keys, (ended = key ∨ ended = key.endedAt now) ∧
      ∀ t, now ≤ t → ended.state t = .expired := by
  obtain ⟨hkey, hkind, hstate⟩ := mem_keysIn.mp hmem
  have hfrom : SecurityKey.hasCome key.validFrom now = true :=
    SecurityKey.hasCome_mono (SecurityKey.state_eq_valid_iff.mp hstate).2 hnow
  obtain ⟨before, first, after, hkeys, _, hfirst, rfl⟩ := promoteNewKey_eq_ok h
  have hne : ∀ k, k.validFrom = key.validFrom → k ≠ first := by
    rintro k hk rfl
    have hnone := (SecurityKey.state_eq_new_iff.mp (SecurityKey.is_iff.mp hfirst).2).2
    rw [← hk, hnone] at hfrom
    cases hfrom
  have hkept : ∀ k ∈ endValidKeys kind now device.keys, k.validFrom = key.validFrom →
      k ∈ before ++ first.begunAt now :: after := by
    intro k hk hsame
    rw [hkeys] at hk
    rcases List.mem_append.mp hk with hk | hk
    · exact List.mem_append_left _ hk
    · rcases List.mem_cons.mp hk with hk | hk
      · exact absurd hk (hne k hsame)
      · exact List.mem_append_right _ (List.mem_cons_of_mem _ hk)
  have hended : (if key.is kind .valid now then key.endedAt now else key) ∈
      endValidKeys kind now device.keys := List.mem_map_of_mem hkey
  by_cases hvalid : key.is kind .valid now = true
  · rw [if_pos hvalid] at hended
    exact ⟨key.endedAt now, hkept _ hended rfl, .inr rfl, fun t ht => SecurityKey.state_endedAt ht⟩
  · rw [if_neg hvalid] at hended
    have hcome : SecurityKey.hasCome key.validTo now = true := by
      cases hto : SecurityKey.hasCome key.validTo now with
      | true => rfl
      | false =>
          exact absurd (SecurityKey.is_iff.mpr
            ⟨hkind, SecurityKey.state_eq_valid_iff.mpr ⟨hto, hfrom⟩⟩) hvalid
    exact ⟨key, hkept _ hended rfl, .inl rfl,
      fun t ht => SecurityKey.state_expired_mono (SecurityKey.state_eq_expired_iff.mpr hcome) ht⟩

/-! ## What a device holds throughout a period -/

/-- Throughout the period `valid` is the one key of the kind that is in use, and `new` the one that
is unconfirmed, if there is any. -/
structure Holds (device : Device) (kind : KeyKind) (valid : SecurityKey)
    (new : Option SecurityKey) (period : Instant → Prop) : Prop where
  keysIn_valid : ∀ t, period t → device.keysIn kind .valid t = [valid]
  keysIn_new : ∀ t, period t → device.keysIn kind .new t = new.toList

namespace Holds

variable {valid : SecurityKey} {new : Option SecurityKey} {period period' : Instant → Prop}

theorem mono (h : device.Holds kind valid new period) (hperiod : ∀ t, period' t → period t) :
    device.Holds kind valid new period' :=
  ⟨fun t ht => h.keysIn_valid t (hperiod t ht), fun t ht => h.keysIn_new t (hperiod t ht)⟩

theorem validKey? (h : device.Holds kind valid new period) (ht : period t) :
    device.validKey? kind t = some valid := by
  rw [Device.validKey?, key?_eq, h.keysIn_valid t ht, List.head?_cons]

theorem newKey? (h : device.Holds kind valid new period) (ht : period t) :
    device.newKey? kind t = new := by
  rw [Device.newKey?, key?_eq, h.keysIn_new t ht]
  cases new <;> rfl

theorem valid_state (h : device.Holds kind valid new period) (ht : period t) :
    valid ∈ device.keys ∧ valid.kind = kind ∧ valid.state t = .valid := by
  rw [← mem_keysIn, h.keysIn_valid t ht]
  exact List.mem_singleton_self valid

theorem new_state {key : SecurityKey} (h : device.Holds kind valid (some key) period)
    (ht : period t) : key ∈ device.keys ∧ key.kind = kind ∧ key.state t = .new := by
  rw [← mem_keysIn, h.keysIn_new t ht]
  exact List.mem_singleton_self key

/-- Keys of the other kinds are left as they are. -/
theorem discardNewKeys_of_ne (h : device.Holds j valid new period) (hj : j ≠ kind) :
    (device.discardNewKeys kind now).Holds j valid new period := by
  have hother : ∀ state t, (device.discardNewKeys kind now).keysIn j state t =
      device.keysIn j state t := by
    intro state t
    rw [keysIn_discardNewKeys, List.filter_eq_self]
    intro key hkey
    rw [SecurityKey.is_eq_false_of_kind, Bool.not_false]
    rw [(mem_keysIn.mp hkey).2.1]
    exact hj
  exact ⟨fun t ht => by rw [hother, h.keysIn_valid t ht],
    fun t ht => by rw [hother, h.keysIn_new t ht]⟩

theorem discardNewKeys (h : device.Holds kind valid new period) (hnow : period now) :
    (device.discardNewKeys kind now).Holds kind valid none period := by
  constructor
  · intro t ht
    rw [keysIn_discardNewKeys, h.keysIn_valid t ht]
    have hvalid := (h.valid_state hnow).2.2
    simp [SecurityKey.is, SecurityKey.isIn, hvalid]
  · intro t ht
    rw [keysIn_discardNewKeys, Option.toList_none, List.filter_eq_nil_iff]
    intro key hkey
    rw [h.keysIn_new t ht, ← h.keysIn_new now hnow] at hkey
    have hnew := (mem_keysIn.mp hkey).2
    simp [SecurityKey.is, SecurityKey.isIn, hnew]

theorem addNewKey_of_ne {material : String} (h : device.Holds j valid new period)
    (hj : j ≠ kind) : (device.addNewKey kind material now).Holds j valid new period := by
  have hrest : (device.discardNewKeys kind now).Holds j valid new period :=
    h.discardNewKeys_of_ne hj
  have hnone : ∀ state t, (SecurityKey.unconfirmed kind material).is j state t = false :=
    fun _ _ => SecurityKey.is_eq_false_of_kind (Ne.symm hj)
  constructor
  · intro t ht
    rw [keysIn_addNewKey, hrest.keysIn_valid t ht]
    simp [hnone]
  · intro t ht
    rw [keysIn_addNewKey, hrest.keysIn_new t ht]
    simp [hnone]

theorem addNewKey {material : String} (h : device.Holds kind valid new period)
    (hnow : period now) : (device.addNewKey kind material now).Holds kind valid
      (some (.unconfirmed kind material)) period := by
  have hrest := h.discardNewKeys hnow
  constructor
  · intro t ht
    rw [keysIn_addNewKey, hrest.keysIn_valid t ht]
    simp [SecurityKey.is, SecurityKey.isIn]
  · intro t ht
    rw [keysIn_addNewKey, hrest.keysIn_new t ht]
    simp [SecurityKey.is, SecurityKey.isIn]
    rfl

theorem promoteNewKey_of_ne (h : device.Holds j valid new period) (hj : j ≠ kind)
    (hpromoted : device.promoteNewKey kind now = .ok promoted) :
    promoted.Holds j valid new period := by
  constructor
  · intro t ht
    rw [keysIn_promoteNewKey_of_ne hj hpromoted, h.keysIn_valid t ht]
  · intro t ht
    rw [keysIn_promoteNewKey_of_ne hj hpromoted, h.keysIn_new t ht]

/-- An unconfirmed key can be promoted, and from then on is the only one of its kind. -/
theorem promoteNewKey {key : SecurityKey} (h : device.Holds kind valid (some key) period)
    (hnow : period now) : ∃ promoted, device.promoteNewKey kind now = .ok promoted ∧
      promoted.Holds kind (key.begunAt now) none fun t => period t ∧ now ≤ t := by
  have hnew : ∀ t, period t → device.keysIn kind .new t = [key] := fun t ht => h.keysIn_new t ht
  obtain ⟨promoted, hpromoted⟩ := exists_promoteNewKey (hnew now hnow)
  refine ⟨promoted, hpromoted, ?_, ?_⟩
  · rintro t ⟨ht, hle⟩
    refine keysIn_valid_promoteNewKey hle (fun k hk hkvalid => ?_) (hnew now hnow)
      (SecurityKey.is_iff.mpr (h.new_state ht).2) hpromoted
    have hmem : k ∈ device.keysIn kind .valid t := List.mem_filter.mpr ⟨hk, hkvalid⟩
    rw [h.keysIn_valid t ht, ← h.keysIn_valid now hnow] at hmem
    exact (List.mem_filter.mp hmem).2
  · rintro t ⟨ht, hle⟩
    exact keysIn_new_promoteNewKey hle (hnew now hnow) (hnew t ht) hpromoted

end Holds

end Device

end HeadEnd
