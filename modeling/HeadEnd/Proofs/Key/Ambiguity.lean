import HeadEnd.Proofs.Key.State

/-! # Keys without ambiguity

Of every kind at most one key should be in use and at most one unconfirmed, at any instant from now
on. Staging and discarding keys leave it so. A promotion ends the key that is in use, but not those
that are to be used later: one of them comes into use beside the promoted key.
-/

namespace HeadEnd.Device

variable {device promoted : Device} {kind j : KeyKind} {key : SecurityKey} {now t : Instant}

/-- From now on no kind has two keys in use or two unconfirmed keys. -/
def IsUnambiguous (device : Device) (now : Instant) : Prop :=
  ∀ kind t, now ≤ t →
    (device.keysIn kind .valid t).length ≤ 1 ∧ (device.keysIn kind .new t).length ≤ 1

/-! ## Changes to the keys -/

inductive Edit where
  | add (kind : KeyKind) (material : String)
  | discard (kind : KeyKind)
  | promote (kind : KeyKind)
  deriving DecidableEq

/-- The device after a change; one without a key to promote stays as it is. -/
def edited (device : Device) (edit : Edit) (now : Instant) : Device :=
  match edit with
  | .add kind material => device.addNewKey kind material now
  | .discard kind => device.discardNewKeys kind now
  | .promote kind =>
    match device.promoteNewKey kind now with
    | .ok promoted => promoted
    | .error _ => device

/-- The device after changes, each at its instant. -/
def editedAll (device : Device) (edits : List (Instant × Edit)) : Device :=
  edits.foldl (fun device edit => device.edited edit.2 edit.1) device

/-! ## Staging and discarding -/

theorem length_keysIn_discardNewKeys_le {state : KeyState} :
    ((device.discardNewKeys kind now).keysIn j state t).length ≤
      (device.keysIn j state t).length := by
  rw [keysIn_discardNewKeys]
  exact List.length_filter_le _ _

theorem IsUnambiguous.discardNewKeys (h : device.IsUnambiguous now) :
    (device.discardNewKeys kind now).IsUnambiguous now := by
  intro j t ht
  exact ⟨Nat.le_trans length_keysIn_discardNewKeys_le (h j t ht).1,
    Nat.le_trans length_keysIn_discardNewKeys_le (h j t ht).2⟩

theorem IsUnambiguous.addNewKey {material : String} (h : device.IsUnambiguous now) :
    (device.addNewKey kind material now).IsUnambiguous now := by
  intro j t ht
  constructor
  · rw [keysIn_valid_addNewKey]
    exact (h j t ht).1
  · by_cases hj : j = kind
    · subst hj
      simp [keysIn_new_addNewKey ht]
    · have hother : (SecurityKey.unconfirmed kind material).is j .new t = false :=
        SecurityKey.is_eq_false_of_kind (Ne.symm hj)
      have hle : ((device.discardNewKeys kind now).keysIn j .new t).length ≤
          (device.keysIn j .new t).length := length_keysIn_discardNewKeys_le
      have hone := (h j t ht).2
      simp only [keysIn_addNewKey, List.filter_cons, hother, List.filter_nil]
      simp
      omega

/-! ## Promotion -/

/-- A promotion makes three kinds of keys: old ones, ended ones, and the one it takes into use. -/
theorem mem_promoteNewKey (h : device.promoteNewKey kind now = .ok promoted) {k : SecurityKey}
    (hk : k ∈ promoted.keys) :
    (k ∈ device.keys ∧ k.is kind .valid now = false) ∨
      (∃ old ∈ device.keys, old.is kind .valid now = true ∧ k = old.endedAt now) ∨
      ∃ new ∈ device.keys, new.is kind .new now = true ∧ k = new.begunAt now := by
  obtain ⟨before, first, after, hkeys, _, hfirst, rfl⟩ := promoteNewKey_eq_ok h
  have hended : ∀ k' ∈ before ++ first :: after,
      (k' ∈ device.keys ∧ k'.is kind .valid now = false) ∨
        ∃ old ∈ device.keys, old.is kind .valid now = true ∧ k' = old.endedAt now := by
    intro k' hk'
    rw [← hkeys] at hk'
    obtain ⟨old, hold, rfl⟩ := List.mem_map.mp hk'
    by_cases hvalid : old.is kind .valid now = true
    · rw [if_pos hvalid]
      exact .inr ⟨old, hold, hvalid, rfl⟩
    · rw [if_neg hvalid]
      exact .inl ⟨hold, by simpa using hvalid⟩
  simp only [List.mem_append, List.mem_cons] at hk
  rcases hk with hk | rfl | hk
  · exact (hended k (List.mem_append_left _ hk)).imp id .inl
  · right
    right
    rcases hended first (List.mem_append_right _ List.mem_cons_self) with ⟨hmem, _⟩ |
      ⟨old, _, _, rfl⟩
    · exact ⟨first, hmem, hfirst, rfl⟩
    · rw [SecurityKey.is_iff, SecurityKey.state_endedAt (Instant.le_refl now)] at hfirst
      cases hfirst.2
  · exact (hended k (List.mem_append_right _ (List.mem_cons_of_mem _ hk))).imp id .inl

/-! ## Keys to be used later -/

theorem keysIn_notYetValid_of_le (ht : now ≤ t) (hnone : device.keysIn kind .notYetValid now = []) :
    device.keysIn kind .notYetValid t = [] := by
  refine List.filter_eq_nil_iff.mpr fun k hk hpending => ?_
  obtain ⟨hkind, hstate⟩ := SecurityKey.is_iff.mp hpending
  have hnow : k ∈ device.keysIn kind .notYetValid now :=
    mem_keysIn.mpr ⟨hk, hkind, SecurityKey.state_notYetValid_of_le hstate ht⟩
  simp [hnone] at hnow

/-- No change makes a key that is to be used later. -/
theorem keysIn_notYetValid_edited {edit : Edit}
    (hnone : device.keysIn kind .notYetValid now = []) :
    (device.edited edit now).keysIn kind .notYetValid now = [] := by
  cases edit with
  | add j material =>
      have hunconfirmed : (SecurityKey.unconfirmed j material).is kind .notYetValid now = false :=
        SecurityKey.is_eq_false_of_state (by simp)
      simp [edited, keysIn_addNewKey, keysIn_discardNewKeys, hnone, hunconfirmed]
  | discard j => simp [edited, keysIn_discardNewKeys, hnone]
  | promote j =>
      rw [edited]
      split
      · refine List.filter_eq_nil_iff.mpr fun k hk hpending => ?_
        obtain ⟨hkind, hstate⟩ := SecurityKey.is_iff.mp hpending
        rcases mem_promoteNewKey ‹_› hk with ⟨hmem, _⟩ | ⟨old, _, _, rfl⟩ | ⟨new, _, _, rfl⟩
        · have hnow : k ∈ device.keysIn kind .notYetValid now := mem_keysIn.mpr ⟨hmem, hkind, hstate⟩
          simp [hnone] at hnow
        · simp [SecurityKey.state_endedAt (Instant.le_refl now)] at hstate
        · simp [SecurityKey.state_eq_notYetValid_iff, SecurityKey.begunAt,
            SecurityKey.hasCome_some_self] at hstate
      · exact hnone

/-! ## The keys in use after a promotion -/

/-- Ending the keys in use leaves those in use later that are not in use yet. -/
theorem filter_valid_endValidKeys (ht : now ≤ t) (keys : List SecurityKey) :
    ((endValidKeys kind now keys).filter fun k => k.is kind .valid t) =
      (keys.filter fun k => k.is kind .notYetValid now).filter fun k => k.isIn .valid t := by
  induction keys with
  | nil => rfl
  | cons k keys ih =>
      rw [endValidKeys] at ih ⊢
      rw [List.map_cons, List.filter_cons, ih, List.filter_cons]
      by_cases hkind : k.kind = kind
      · have hended : (k.endedAt now).is kind .valid t = false :=
          SecurityKey.is_eq_false_of_state (by simp [SecurityKey.state_endedAt ht])
        have hexpired : k.state now = .expired → k.state t = .expired :=
          fun h => SecurityKey.state_expired_mono h ht
        have hnew : k.state now = .new → k.state t ≠ .valid := by
          intro hnew hvalid
          rw [SecurityKey.state_eq_new_iff] at hnew
          rw [SecurityKey.state_eq_valid_iff, hnew.2] at hvalid
          cases hvalid.2
        cases hstate : k.state now <;>
          simp_all [SecurityKey.is, SecurityKey.isIn, List.filter_cons]
      · have hother : ∀ state u, k.is kind state u = false :=
          fun _ _ => SecurityKey.is_eq_false_of_kind hkind
        simp [hother]

/-- After a promotion the promoted key is in use as long as it would have been unconfirmed, beside
those keys that were to be used later. -/
theorem length_keysIn_valid_promoteNewKey (ht : now ≤ t)
    (hnew : device.keysIn kind .new now = [key])
    (h : device.promoteNewKey kind now = .ok promoted) :
    (promoted.keysIn kind .valid t).length =
      ((device.keysIn kind .notYetValid now).filter fun k => k.isIn .valid t).length +
        if key.state t = .new then 1 else 0 := by
  obtain ⟨before, after, hkeys, rfl⟩ := exists_split_of_promoteNewKey hnew h
  have hmem : key ∈ device.keysIn kind .new now := by simp [hnew]
  obtain ⟨_, hkind, hstate⟩ := mem_keysIn.mp hmem
  have hfrom : key.validFrom = none := (SecurityKey.state_eq_new_iff.mp hstate).2
  have hunused : key.is kind .valid t = false := by
    refine SecurityKey.is_eq_false_of_state fun hvalid => ?_
    rw [SecurityKey.state_eq_valid_iff, hfrom] at hvalid
    cases hvalid.2
  have hbegun : (key.begunAt now).is kind .valid t = decide (key.state t = .new) := by
    have hcome : SecurityKey.hasCome (some now) t = true :=
      SecurityKey.hasCome_mono (SecurityKey.hasCome_some_self now) ht
    rw [Bool.eq_iff_iff, SecurityKey.is_iff, SecurityKey.state_eq_valid_iff, decide_eq_true_iff,
      SecurityKey.state_eq_new_iff]
    simp [SecurityKey.begunAt, hkind, hcome, hfrom]
  have hothers : ((endValidKeys kind now device.keys).filter fun k => k.is kind .valid t).length =
      ((device.keys.filter fun k => k.is kind .notYetValid now).filter
        fun k => k.isIn .valid t).length :=
    congrArg List.length (filter_valid_endValidKeys ht device.keys)
  rw [hkeys] at hothers
  simp only [List.filter_append, List.filter_cons, hunused, Bool.false_eq_true, if_false,
    List.length_append] at hothers
  simp only [keysIn, List.filter_append, List.filter_cons, hbegun, List.length_append]
  by_cases hstate : key.state t = .new
  · simp only [hstate, decide_true, if_true, List.length_cons]
    omega
  · simp only [hstate, decide_false, Bool.false_eq_true, if_false]
    omega

theorem length_filter_valid_keysIn_le {state : KeyState} :
    ((device.keysIn kind state now).filter fun k => k.isIn .valid t).length ≤
      (device.keysIn kind .valid t).length := by
  rw [keysIn, keysIn, List.filter_filter, ← List.countP_eq_length_filter,
    ← List.countP_eq_length_filter]
  refine List.countP_mono_left fun k _ hk => ?_
  simp only [SecurityKey.is, Bool.and_eq_true] at hk ⊢
  exact ⟨hk.2.1, hk.1⟩

theorem length_keysIn_new_promoteNewKey_le (h : device.promoteNewKey kind now = .ok promoted) :
    (promoted.keysIn j .new t).length ≤ (device.keysIn j .new t).length := by
  obtain ⟨before, first, after, hkeys, _, _, rfl⟩ := promoteNewKey_eq_ok h
  have hbegun : (first.begunAt now).is j .new t = false := by
    refine SecurityKey.is_eq_false_of_state fun hnew => ?_
    cases (SecurityKey.state_eq_new_iff.mp hnew).2
  have hold : ((endValidKeys kind now device.keys).filter fun k => k.is j .new t).length =
      (device.keys.filter fun k => k.is j .new t).length :=
    congrArg List.length (filter_endValidKeys_new device.keys)
  simp only [hkeys, List.filter_append, List.length_append, List.filter_cons] at hold
  simp only [keysIn, List.filter_append, List.length_append, List.filter_cons, hbegun]
  cases hfirst : first.is j .new t with
  | true =>
      simp only [hfirst, if_true, List.length_cons] at hold
      simp only [Bool.false_eq_true, if_false]
      omega
  | false =>
      simp only [hfirst, Bool.false_eq_true, if_false] at hold
      simp only [Bool.false_eq_true, if_false]
      omega

/-- A promotion leaves the keys without ambiguity if and only if no key that is to be used later
comes into use while the promoted key is. -/
theorem isUnambiguous_edited_promote_iff (hdevice : device.IsUnambiguous now)
    (hkey : key ∈ device.keysIn kind .new now) :
    (device.edited (.promote kind) now).IsUnambiguous now ↔
      ∀ pending ∈ device.keysIn kind .notYetValid now, ∀ t, now ≤ t →
        pending.state t = .valid → key.state t ≠ .new := by
  have hnew : device.keysIn kind .new now = [key] := by
    have hone := (hdevice kind now (Instant.le_refl now)).2
    obtain ⟨only, honly⟩ := List.length_eq_one_iff.mp
      (Nat.le_antisymm hone (List.length_pos_of_mem hkey))
    rw [honly, List.mem_singleton] at hkey
    rw [honly, hkey]
  obtain ⟨promoted, h⟩ := exists_promoteNewKey hnew
  rw [edited, h]
  constructor
  · intro hpromoted pending hpending t ht hvalid hstate
    have hlength := (hpromoted kind t ht).1
    have hmem : pending ∈ (device.keysIn kind .notYetValid now).filter fun k => k.isIn .valid t :=
      List.mem_filter.mpr ⟨hpending, by simp [SecurityKey.isIn, hvalid]⟩
    have hpos := List.length_pos_of_mem hmem
    rw [length_keysIn_valid_promoteNewKey ht hnew h, if_pos hstate] at hlength
    omega
  · intro hpending j t ht
    refine ⟨?_, Nat.le_trans (length_keysIn_new_promoteNewKey_le h) (hdevice j t ht).2⟩
    by_cases hj : j = kind
    · subst hj
      rw [length_keysIn_valid_promoteNewKey ht hnew h]
      by_cases hstate : key.state t = .new
      · have hnone : ((device.keysIn j .notYetValid now).filter fun k => k.isIn .valid t) = [] :=
          List.filter_eq_nil_iff.mpr fun pending hmem hvalid =>
            hpending pending hmem t ht (by simpa [SecurityKey.isIn] using hvalid) hstate
        simp [hnone, hstate]
      · have hle : ((device.keysIn j .notYetValid now).filter fun k => k.isIn .valid t).length ≤
            (device.keysIn j .valid t).length := length_filter_valid_keysIn_le
        have hone := (hdevice j t ht).1
        rw [if_neg hstate]
        omega
    · rw [keysIn_promoteNewKey_of_ne hj h]
      exact (hdevice j t ht).1

/-! ## Any number of changes -/

/-- One change, made when no key of a kind that is promoted is to be used later. -/
theorem IsUnambiguous.edited {edit : Edit} (h : device.IsUnambiguous now)
    (hpending : ∀ kind, edit = .promote kind → device.keysIn kind .notYetValid now = []) :
    (device.edited edit now).IsUnambiguous now := by
  cases edit with
  | add kind material => exact h.addNewKey
  | discard kind => exact h.discardNewKeys
  | promote kind =>
      cases hnew : device.keysIn kind .new now with
      | nil =>
          rw [Device.edited]
          split
          · obtain ⟨_, first, _, hkeys, _, hfirst, _⟩ := promoteNewKey_eq_ok ‹_›
            have hmem : first ∈ device.keysIn kind .new now := by
              have hkept : (endValidKeys kind now device.keys).filter (·.is kind .new now) =
                  device.keysIn kind .new now := filter_endValidKeys_new device.keys
              rw [← hkept, hkeys]
              simp [hfirst]
            simp [hnew] at hmem
          · exact h
      | cons key rest =>
          have hkey : key ∈ device.keysIn kind .new now := by simp [hnew]
          refine (isUnambiguous_edited_promote_iff h hkey).mpr ?_
          simp [hpending kind rfl]

/-- Changes leave the keys without ambiguity as long as no kind is promoted of which a key is to be
used later; and only such a key, if it comes into use while the promoted key is, makes a promotion
leave two keys in use. -/
theorem editedAll_isUnambiguous (hdevice : device.IsUnambiguous now) :
    (∀ edits : List (Instant × Edit), (now :: edits.map Prod.fst).Pairwise (· ≤ ·) →
      (∀ kind, .promote kind ∈ edits.map Prod.snd → device.keysIn kind .notYetValid now = []) →
      (device.editedAll edits).IsUnambiguous ((edits.map Prod.fst).getLastD now)) ∧
    ∀ kind, ∀ key ∈ device.keysIn kind .new now,
      (device.edited (.promote kind) now).IsUnambiguous now ↔
        ∀ pending ∈ device.keysIn kind .notYetValid now, ∀ t, now ≤ t →
          pending.state t = .valid → key.state t ≠ .new := by
  refine ⟨fun edits => ?_, fun kind key hkey => isUnambiguous_edited_promote_iff hdevice hkey⟩
  induction edits generalizing device now with
  | nil => exact fun _ _ => hdevice
  | cons edit edits ih =>
      obtain ⟨t, edit⟩ := edit
      intro horder hpending
      rw [List.map_cons, List.pairwise_cons] at horder
      have ht : now ≤ t := horder.1 t List.mem_cons_self
      have hlater : ∀ kind, .promote kind ∈ edit :: edits.map Prod.snd →
          device.keysIn kind .notYetValid t = [] :=
        fun kind hkind => keysIn_notYetValid_of_le ht (hpending kind hkind)
      have hedited : (device.edited edit t).IsUnambiguous t := by
        refine IsUnambiguous.edited (fun j u hu => hdevice j u (Instant.le_trans ht hu)) ?_
        rintro kind rfl
        exact hlater kind List.mem_cons_self
      rw [List.map_cons, List.getLastD_cons]
      exact ih hedited horder.2 fun kind hkind =>
        keysIn_notYetValid_edited (hlater kind (List.mem_cons_of_mem edit hkind))

/-- A device whose keys are to change at the instant 10, with another key that waits to be
confirmed. -/
def rolloverDevice : Device where
  identification := "meter"
  keys := [
    ⟨.authentication, "a1", some ⟨0, 0⟩, some ⟨10, 0⟩⟩,
    ⟨.authentication, "a2", some ⟨10, 0⟩, none⟩,
    ⟨.encryption, "e1", some ⟨0, 0⟩, none⟩,
    .unconfirmed .authentication "a3"]

theorem rolloverDevice_isUnambiguous : rolloverDevice.IsUnambiguous ⟨5, 0⟩ := by
  intro kind t ht
  have hstart : Instant.mk 0 0 ≤ t := Instant.le_trans (by decide) ht
  by_cases hrollover : Instant.mk 10 0 ≤ t <;> cases kind <;>
    simp [keysIn, rolloverDevice, SecurityKey.is, SecurityKey.isIn, SecurityKey.state,
      SecurityKey.hasCome, SecurityKey.unconfirmed, hstart, hrollover]

/-- Two authentication keys are in use from the instant 10 on. -/
theorem not_isUnambiguous_of_promote_before_rollover :
    rolloverDevice.IsUnambiguous ⟨5, 0⟩ ∧
      [Instant.mk 5 0, ⟨5, 0⟩].Pairwise (· ≤ ·) ∧
      ¬ (rolloverDevice.editedAll [(⟨5, 0⟩, .promote .authentication)]).IsUnambiguous ⟨5, 0⟩ := by
  refine ⟨rolloverDevice_isUnambiguous, by decide, fun h => ?_⟩
  exact absurd (h .authentication ⟨10, 0⟩ (by decide)).1 (by decide)

theorem editedAll_isUnambiguous_of_rollover :
    (rolloverDevice.editedAll [(⟨6, 0⟩, .add .encryption "e2"), (⟨6, 0⟩, .promote .encryption),
        (⟨7, 0⟩, .discard .authentication)]).IsUnambiguous ⟨7, 0⟩ ∧
      ((rolloverDevice.edited (.promote .authentication) ⟨5, 0⟩).IsUnambiguous ⟨5, 0⟩ ↔
        ∀ pending ∈ rolloverDevice.keysIn .authentication .notYetValid ⟨5, 0⟩, ∀ t, ⟨5, 0⟩ ≤ t →
          pending.state t = .valid →
            (SecurityKey.unconfirmed .authentication "a3").state t ≠ .new) := by
  obtain ⟨hall, hpromote⟩ := editedAll_isUnambiguous rolloverDevice_isUnambiguous
  refine ⟨hall _ (by decide) ?_, hpromote .authentication _ (by decide)⟩
  intro kind hkind
  simp at hkind
  subst hkind
  decide

end HeadEnd.Device
