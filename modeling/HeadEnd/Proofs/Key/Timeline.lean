import HeadEnd.Proofs.Key.State
import Mathlib.Data.List.Forall2
import Mathlib.Data.List.Pairwise

/-! # The history of the keys of a device

The keys of a kind that were ever in use follow each other: their windows do not overlap, all of
them have begun, and one has no end. Every change to the keys keeps it so, and adds to the history
only.
-/

namespace HeadEnd

namespace Instant

theorem le_of_not_le {s t : Instant} (h : ¬ s ≤ t) : t ≤ s := by
  change ¬ Instant.le s t at h
  change Instant.le t s
  unfold Instant.le at *
  omega

end Instant

namespace SecurityKey

variable {key : SecurityKey} {kind : KeyKind} {now t : Instant}

/-- The meter is known to have used the key. -/
def isDated (key : SecurityKey) : Bool :=
  key.validFrom.isSome

/-- The instant lies in the window of the key. -/
def Covers (key : SecurityKey) (t : Instant) : Prop :=
  ∃ start, key.validFrom = some start ∧ start ≤ t ∧
    ∀ finish, key.validTo = some finish → ¬ finish ≤ t

theorem covers_iff : key.Covers t ↔ key.state t = .valid := by
  rw [state_eq_valid_iff]
  obtain ⟨_, _, validFrom, validTo⟩ := key
  cases validFrom <;> cases validTo <;> simp [Covers, hasCome, and_comm]

/-- No instant lies in the windows of both keys. -/
def Disjoint (key other : SecurityKey) : Prop :=
  ∀ t, ¬ (key.Covers t ∧ other.Covers t)

instance : Std.Symm Disjoint :=
  ⟨fun _ _ h t hboth => h t hboth.symm⟩

theorem isDated_of_valid (h : key.state t = .valid) : key.isDated = true := by
  obtain ⟨start, hstart, _⟩ := covers_iff.mpr h
  simp [isDated, hstart]

/-- The key, out of use from `now` on if it is of the kind and in use. -/
def endedIfValid (kind : KeyKind) (now : Instant) (key : SecurityKey) : SecurityKey :=
  if key.is kind .valid now then key.endedAt now else key

theorem endedIfValid_eq_self (h : key.is kind .valid now = false) :
    endedIfValid kind now key = key := by
  simp [endedIfValid, h]

@[simp] theorem kind_endedIfValid : (endedIfValid kind now key).kind = key.kind := by
  unfold endedIfValid
  split <;> rfl

@[simp] theorem validFrom_endedIfValid :
    (endedIfValid kind now key).validFrom = key.validFrom := by
  unfold endedIfValid
  split <;> rfl

@[simp] theorem isDated_endedIfValid : (endedIfValid kind now key).isDated = key.isDated := by
  rw [isDated, validFrom_endedIfValid, isDated]

/-- A key ends earlier than it would have if it is ended while it is in use. -/
theorem Covers.of_endedIfValid (h : (endedIfValid kind now key).Covers t) : key.Covers t := by
  cases hvalid : key.is kind .valid now with
  | true =>
      rw [endedIfValid, if_pos hvalid] at h
      obtain ⟨start, hstart, hle, hend⟩ := h
      refine ⟨start, hstart, hle, fun finish hfinish hcome => ?_⟩
      have ht : t ≤ now := Instant.le_of_not_le (hend now rfl)
      obtain ⟨_, _, _, hopen⟩ := covers_iff.mpr (is_iff.mp hvalid).2
      exact hopen finish hfinish (Instant.le_trans hcome ht)
  | false => rwa [endedIfValid_eq_self hvalid] at h

/-- The key is the same at a later time: only its end may have been set since. -/
structure Ages (key later : SecurityKey) : Prop where
  kind : later.kind = key.kind
  material : later.material = key.material
  validFrom : later.validFrom = key.validFrom
  validTo : later.validTo = key.validTo ∨ key.validTo = none

instance : Std.Refl Ages :=
  ⟨fun _ => ⟨rfl, rfl, rfl, .inl rfl⟩⟩

instance : IsTrans SecurityKey Ages where
  trans first second third h h' := by
    refine ⟨h'.kind.trans h.kind, h'.material.trans h.material, h'.validFrom.trans h.validFrom, ?_⟩
    rcases h.validTo with hsame | hopen
    · rcases h'.validTo with hsame' | hopen'
      · exact .inl (hsame'.trans hsame)
      · exact .inr (hsame ▸ hopen')
    · exact .inr hopen

end SecurityKey

namespace Device

open SecurityKey

variable {device promoted : Device} {kind j : KeyKind} {key : SecurityKey} {now t : Instant}
  {keys : List SecurityKey}

/-! ## Timelines -/

/-- The keys of a kind, those of them that the meter is known to have used or the others. -/
def keysOf (kind : KeyKind) (dated : Bool) (keys : List SecurityKey) : List SecurityKey :=
  keys.filter fun key => key.kind == kind && key.isDated == dated

theorem mem_keysOf {dated : Bool} :
    key ∈ keysOf kind dated keys ↔ key ∈ keys ∧ key.kind = kind ∧ key.isDated = dated := by
  simp [keysOf]

/-- The keys of a kind follow each other up to now, and at most one waits to be confirmed. -/
structure Timeline (keys : List SecurityKey) (kind : KeyKind) (now : Instant) : Prop where
  disjoint : (keysOf kind true keys).Pairwise Disjoint
  begun : ∀ key ∈ keysOf kind true keys, hasCome key.validFrom now = true
  open_unique : ((keysOf kind true keys).filter fun key => key.validTo.isNone).length = 1
  undated_unique : (keysOf kind false keys).length ≤ 1
  undated_open : ∀ key ∈ keysOf kind false keys, key.validTo = none

def HasTimeline (device : Device) (now : Instant) : Prop :=
  ∀ kind, Timeline device.keys kind now

namespace Timeline

theorem mono (h : Timeline keys kind now) (ht : now ≤ t) : Timeline keys kind t :=
  { h with begun := fun key hkey => hasCome_mono (h.begun key hkey) ht }

/-- The key without an end is in use from now on. -/
theorem exists_open (h : Timeline keys kind now) :
    ∃ last ∈ keysOf kind true keys, last.validTo = none ∧
      ((keysOf kind true keys).filter fun key => key.validTo.isNone) = [last] ∧
      ∀ t, now ≤ t → last.state t = .valid := by
  obtain ⟨last, hlast⟩ := List.length_eq_one_iff.mp h.open_unique
  have hmem : last ∈ (keysOf kind true keys).filter fun key => key.validTo.isNone := by
    simp [hlast]
  obtain ⟨hmem, hopen⟩ := List.mem_filter.mp hmem
  have hopen : last.validTo = none := by simpa using hopen
  refine ⟨last, hmem, hopen, hlast, fun t ht => ?_⟩
  rw [state_eq_valid_iff, hopen]
  exact ⟨rfl, hasCome_mono (h.begun last hmem) ht⟩

/-- From now on a key of the timeline is in use if and only if it has no end. -/
theorem valid_iff (h : Timeline keys kind now) (hkey : key ∈ keysOf kind true keys)
    (ht : now ≤ t) : key.state t = .valid ↔ key.validTo = none := by
  constructor
  · intro hvalid
    obtain ⟨last, hlast, hopen, _, hlastValid⟩ := h.exists_open
    by_contra hend
    have hne : key ≠ last := by
      rintro rfl
      exact hend hopen
    exact h.disjoint.forall hkey hlast hne t
      ⟨covers_iff.mpr hvalid, covers_iff.mpr (hlastValid t ht)⟩
  · intro hopen
    rw [state_eq_valid_iff, hopen]
    exact ⟨rfl, hasCome_mono (h.begun key hkey) ht⟩

theorem exists_keysIn_valid (h : Timeline device.keys kind now) (ht : now ≤ t) :
    ∃ key, device.keysIn kind .valid t = [key] := by
  obtain ⟨last, _, _, hlast, _⟩ := h.exists_open
  refine ⟨last, ?_⟩
  rw [← hlast, keysOf, List.filter_filter, keysIn]
  refine List.filter_congr fun key hmem => ?_
  rw [Bool.eq_iff_iff, is_iff]
  simp only [Bool.and_eq_true, beq_iff_eq, Option.isNone_iff_eq_none]
  constructor
  · rintro ⟨hkind, hvalid⟩
    have hkey := mem_keysOf.mpr ⟨hmem, hkind, isDated_of_valid hvalid⟩
    exact ⟨(h.valid_iff hkey ht).mp hvalid, hkind, isDated_of_valid hvalid⟩
  · rintro ⟨hopen, hkind, hdated⟩
    exact ⟨hkind, (h.valid_iff (mem_keysOf.mpr ⟨hmem, hkind, hdated⟩) ht).mpr hopen⟩

/-- The keys that wait to be confirmed are those that have not begun. -/
theorem keysIn_new (h : Timeline device.keys kind now) :
    device.keysIn kind .new t = keysOf kind false device.keys := by
  refine List.filter_congr fun key hmem => ?_
  rw [Bool.eq_iff_iff, is_iff, state_eq_new_iff]
  simp only [Bool.and_eq_true, beq_iff_eq, isDated]
  constructor
  · rintro ⟨hkind, _, hfrom⟩
    simp [hkind, hfrom]
  · rintro ⟨hkind, hundated⟩
    have hkey : key ∈ keysOf kind false device.keys := mem_keysOf.mpr ⟨hmem, hkind, hundated⟩
    refine ⟨hkind, ?_, by simpa using hundated⟩
    rw [h.undated_open key hkey]
    rfl

/-- Timelines depend on the keys of their kind only, and may lose a key that has not begun. -/
theorem of_keysOf_eq {keys' : List SecurityKey} (h : Timeline keys kind now)
    (hdated : keysOf kind true keys' = keysOf kind true keys)
    (hundated : (keysOf kind false keys').Sublist (keysOf kind false keys)) :
    Timeline keys' kind now where
  disjoint := hdated ▸ h.disjoint
  begun := hdated ▸ h.begun
  open_unique := hdated ▸ h.open_unique
  undated_unique := Nat.le_trans hundated.length_le h.undated_unique
  undated_open key hkey := h.undated_open key (hundated.subset hkey)

end Timeline

/-- In a device with a timeline exactly one key of each kind is in use from now on, and at most one
waits to be confirmed. -/
theorem HasTimeline.keysIn (h : device.HasTimeline now) (kind : KeyKind) (ht : now ≤ t) :
    (∃ key, device.keysIn kind .valid t = [key]) ∧ (device.keysIn kind .new t).length ≤ 1 := by
  rw [(h kind).keysIn_new]
  exact ⟨(h kind).exists_keysIn_valid ht, (h kind).undated_unique⟩

theorem HasTimeline.mono (h : device.HasTimeline now) (ht : now ≤ t) : device.HasTimeline t :=
  fun kind => (h kind).mono ht

/-! ## Staging and discarding -/

theorem not_isDated_of_new (h : key.is kind .new now = true) : key.isDated = false := by
  rw [is_iff, state_eq_new_iff] at h
  simp [isDated, h.2.2]

theorem keysOf_discardNewKeys {dated : Bool} :
    keysOf j dated (device.discardNewKeys kind now).keys =
      (keysOf j dated device.keys).filter fun key => !key.is kind .new now := by
  simp only [keysOf, discardNewKeys, List.filter_filter, Bool.and_comm]

theorem filter_isDated_discardNewKeys :
    (device.discardNewKeys kind now).keys.filter isDated = device.keys.filter isDated := by
  rw [discardNewKeys, List.filter_filter]
  refine List.filter_congr fun key _ => ?_
  cases hnew : key.is kind .new now with
  | false => simp
  | true => simp [not_isDated_of_new hnew]

theorem HasTimeline.discardNewKeys (h : device.HasTimeline now) :
    (device.discardNewKeys kind now).HasTimeline now := by
  intro j
  refine (h j).of_keysOf_eq ?_ ?_
  · rw [keysOf_discardNewKeys, List.filter_eq_self]
    intro key hkey
    cases hnew : key.is kind .new now with
    | false => rfl
    | true =>
        have hdated := (mem_keysOf.mp hkey).2.2
        simp [not_isDated_of_new hnew] at hdated
  · rw [keysOf_discardNewKeys]
    exact List.filter_sublist

theorem keysOf_append {dated : Bool} (front back : List SecurityKey) :
    keysOf kind dated (front ++ back) = keysOf kind dated front ++ keysOf kind dated back :=
  List.filter_append ..

theorem keysOf_addNewKey {material : String} {dated : Bool} :
    keysOf j dated (device.addNewKey kind material now).keys =
      keysOf j dated (device.discardNewKeys kind now).keys ++
        keysOf j dated [unconfirmed kind material] :=
  keysOf_append ..

theorem HasTimeline.addNewKey {material : String} (h : device.HasTimeline now) :
    (device.addNewKey kind material now).HasTimeline now := by
  intro j
  have hrest : Timeline (device.discardNewKeys kind now).keys j now := h.discardNewKeys j
  by_cases hj : j = kind
  · subst hj
    have hdated : keysOf j true [unconfirmed j material] = [] := by simp [keysOf, isDated,
      unconfirmed]
    have hundated : keysOf j false [unconfirmed j material] = [unconfirmed j material] := by
      simp [keysOf, isDated, unconfirmed]
    -- Every key of the kind that has not begun is discarded before the new one is added.
    have hnone : keysOf j false (device.discardNewKeys j now).keys = [] := by
      have hnew : (device.discardNewKeys j now).keysIn j .new now = [] := by
        rw [keysIn_discardNewKeys, List.filter_eq_nil_iff]
        intro key hkey
        simpa [keysIn] using (List.mem_filter.mp hkey).2
      exact hrest.keysIn_new.symm.trans hnew
    refine ⟨?_, ?_, ?_, ?_, ?_⟩
    · rw [keysOf_addNewKey, hdated, List.append_nil]
      exact hrest.disjoint
    · rw [keysOf_addNewKey, hdated, List.append_nil]
      exact hrest.begun
    · rw [keysOf_addNewKey, hdated, List.append_nil]
      exact hrest.open_unique
    · rw [keysOf_addNewKey, hundated, hnone]
      simp
    · rw [keysOf_addNewKey, hundated, hnone]
      simp [unconfirmed]
  · have hother : ∀ dated, keysOf j dated [unconfirmed kind material] = [] := by
      intro dated
      simp [keysOf, unconfirmed, Ne.symm hj]
    refine hrest.of_keysOf_eq ?_ ?_
    · rw [keysOf_addNewKey, hother, List.append_nil]
    · rw [keysOf_addNewKey, hother, List.append_nil]

/-! ## Promotion -/

theorem endValidKeys_eq_map : endValidKeys kind now keys = keys.map (endedIfValid kind now) := rfl

theorem map_endedIfValid_eq_self (h : ∀ key ∈ keys, key.is kind .valid now = false) :
    keys.map (endedIfValid kind now) = keys := by
  rw [List.map_congr_left fun key hkey => endedIfValid_eq_self (h key hkey), List.map_id']

theorem keysOf_endValidKeys {dated : Bool} :
    keysOf j dated (endValidKeys kind now keys) = (keysOf j dated keys).map (endedIfValid kind now) := by
  rw [endValidKeys_eq_map, keysOf, List.filter_map, keysOf]
  refine congrArg _ (List.filter_congr fun key _ => ?_)
  simp

theorem keysOf_promoteNewKey_of_ne {dated : Bool} (hj : j ≠ kind)
    (h : device.promoteNewKey kind now = .ok promoted) :
    keysOf j dated promoted.keys = keysOf j dated device.keys := by
  obtain ⟨before, key, after, hkeys, _, hkey, rfl⟩ := promoteNewKey_eq_ok h
  have hkind : (key.kind == j) = false := by
    simpa [(is_iff.mp hkey).1] using Ne.symm hj
  have hbegun : ((key.begunAt now).kind == j) = false := hkind
  have hothers : ∀ k ∈ keysOf j dated device.keys, k.is kind .valid now = false := by
    intro k hk
    apply is_eq_false_of_kind
    rw [(mem_keysOf.mp hk).2.1]
    exact hj
  calc keysOf j dated (before ++ key.begunAt now :: after)
      = keysOf j dated (before ++ key :: after) := by simp [keysOf, hkind, hbegun]
    _ = keysOf j dated device.keys := by
        rw [← hkeys, keysOf_endValidKeys, map_endedIfValid_eq_self hothers]

/-- How a promotion changes the keys of its kind: those in use end, and one that has not begun does
so. -/
theorem exists_keysOf_promoteNewKey (h : device.promoteNewKey kind now = .ok promoted) :
    ∃ key before after before' after', key.is kind .new now = true ∧
      (keysOf kind true device.keys).map (endedIfValid kind now) = before ++ after ∧
      keysOf kind true promoted.keys = before ++ key.begunAt now :: after ∧
      keysOf kind false device.keys = before' ++ key :: after' ∧
      keysOf kind false promoted.keys = before' ++ after' := by
  obtain ⟨before, key, after, hkeys, _, hkey, rfl⟩ := promoteNewKey_eq_ok h
  obtain ⟨hkind, _⟩ := is_iff.mp hkey
  have hundated := not_isDated_of_new hkey
  have hbegun : (key.begunAt now).isDated = true := rfl
  have hbegunKind : (key.begunAt now).kind = kind := hkind
  refine ⟨key, keysOf kind true before, keysOf kind true after, keysOf kind false before,
    keysOf kind false after, hkey, ?_, ?_, ?_, ?_⟩
  · rw [← keysOf_endValidKeys, hkeys]
    simp [keysOf, hundated]
  · simp [keysOf, hbegun, hbegunKind]
  · have hunused : ∀ k ∈ keysOf kind false device.keys, k.is kind .valid now = false := by
      intro k hk
      refine is_eq_false_of_state fun hvalid => ?_
      have hdated := isDated_of_valid hvalid
      simp [(mem_keysOf.mp hk).2.2] at hdated
    rw [← map_endedIfValid_eq_self hunused, ← keysOf_endValidKeys, hkeys]
    simp [keysOf, hundated, hkind]
  · simp [keysOf, hbegun]

/-- What was in use is over after a promotion; what was not had been over before. -/
theorem Timeline.over_endedIfValid (h : Timeline keys kind now)
    (hkey : key ∈ (keysOf kind true keys).map (endedIfValid kind now)) :
    hasCome key.validFrom now = true ∧ hasCome key.validTo now = true := by
  obtain ⟨old, hold, rfl⟩ := List.mem_map.mp hkey
  rw [validFrom_endedIfValid]
  refine ⟨h.begun old hold, ?_⟩
  cases hvalid : old.is kind .valid now with
  | true =>
      rw [endedIfValid, if_pos hvalid]
      exact hasCome_some_self now
  | false =>
      rw [endedIfValid_eq_self hvalid]
      have hstate : old.state now ≠ .valid := by
        simpa [SecurityKey.is, isIn, (mem_keysOf.mp hold).2.1] using hvalid
      rw [Ne, state_eq_valid_iff, h.begun old hold] at hstate
      simpa using hstate

theorem HasTimeline.promoteNewKey (h : device.HasTimeline now)
    (hpromoted : device.promoteNewKey kind now = .ok promoted) : promoted.HasTimeline now := by
  intro j
  by_cases hj : j = kind
  · subst hj
    obtain ⟨key, before, after, before', after', hkey, hended, hdated, hundated, hrest⟩ :=
      exists_keysOf_promoteNewKey hpromoted
    have hopen : key.validTo = none := (h j).undated_open key (by simp [hundated])
    have hone : before' ++ after' = [] := by
      have hle := (h j).undated_unique
      rw [hundated, List.length_append, List.length_cons] at hle
      apply List.eq_nil_of_length_eq_zero
      rw [List.length_append]
      omega
    have hover : ∀ k ∈ before ++ after,
        hasCome k.validFrom now = true ∧ hasCome k.validTo now = true :=
      fun k hk => (h j).over_endedIfValid (hended ▸ hk)
    refine ⟨?_, ?_, ?_, ?_, ?_⟩
    · rw [hdated, List.pairwise_middle symm, List.pairwise_cons]
      constructor
      · rintro k hk t ⟨⟨start, hstart, hle, _⟩, hcovers⟩
        cases hstart
        have hexpired := state_eq_expired_iff.mpr (hasCome_mono (hover k hk).2 hle)
        rw [covers_iff, hexpired] at hcovers
        cases hcovers
      · rw [← hended, List.pairwise_map]
        exact (h j).disjoint.imp fun hdisjoint t hboth =>
          hdisjoint t ⟨Covers.of_endedIfValid hboth.1, Covers.of_endedIfValid hboth.2⟩
    · intro k hk
      rw [hdated, List.mem_append, List.mem_cons] at hk
      rcases hk with hk | rfl | hk
      · exact (hover k (List.mem_append_left _ hk)).1
      · exact hasCome_some_self now
      · exact (hover k (List.mem_append_right _ hk)).1
    · have hclosed : ((before ++ after).filter fun k => k.validTo.isNone) = [] := by
        refine List.filter_eq_nil_iff.mpr fun k hk hnone => ?_
        have hcome := (hover k hk).2
        rw [Option.isNone_iff_eq_none.mp hnone] at hcome
        cases hcome
      rw [List.filter_append, List.append_eq_nil_iff] at hclosed
      simp [hdated, hclosed, SecurityKey.begunAt, hopen]
    · rw [hrest, hone]
      simp
    · rw [hrest, hone]
      simp
  · refine (h j).of_keysOf_eq (keysOf_promoteNewKey_of_ne hj hpromoted) ?_
    rw [keysOf_promoteNewKey_of_ne hj hpromoted]

/-! ## What becomes of keys -/

/-- Every key that was in use is still there, and only its end may have been set. -/
def Ages (device later : Device) : Prop :=
  List.SublistForall₂ SecurityKey.Ages (device.keys.filter isDated) (later.keys.filter isDated)

variable {later latest : Device}

theorem Ages.refl (device : Device) : device.Ages device :=
  Std.Refl.refl (device.keys.filter isDated)

theorem Ages.trans (h : device.Ages later) (h' : later.Ages latest) : device.Ages latest :=
  IsTrans.trans (r := List.SublistForall₂ SecurityKey.Ages) _ _ _ h h'

theorem ages_of_filter_eq (h : later.keys.filter isDated = device.keys.filter isDated) :
    device.Ages later := by
  rw [Ages, h]
  exact Std.Refl.refl _

theorem ages_discardNewKeys : device.Ages (device.discardNewKeys kind now) :=
  ages_of_filter_eq filter_isDated_discardNewKeys

theorem ages_addNewKey {material : String} :
    device.Ages (device.addNewKey kind material now) := by
  refine ages_of_filter_eq ?_
  rw [addNewKey, List.filter_append, filter_isDated_discardNewKeys]
  simp [isDated, unconfirmed]

theorem HasTimeline.ages_promoteNewKey (h : device.HasTimeline now)
    (hpromoted : device.promoteNewKey kind now = .ok promoted) : device.Ages promoted := by
  obtain ⟨before, key, after, hkeys, _, hkey, rfl⟩ := promoteNewKey_eq_ok hpromoted
  have hundated := not_isDated_of_new hkey
  have hbegun : (key.begunAt now).isDated = true := rfl
  refine List.sublistForall₂_iff.mpr
    ⟨(device.keys.filter isDated).map (endedIfValid kind now), ?_, ?_⟩
  · refine List.forall₂_map_right_iff.mpr (List.forall₂_same.mpr fun k hk => ?_)
    obtain ⟨hmem, hdated⟩ := List.mem_filter.mp hk
    cases hvalid : k.is kind .valid now with
    | true =>
        obtain ⟨hkind, hstate⟩ := is_iff.mp hvalid
        have hkey : k ∈ keysOf kind true device.keys := mem_keysOf.mpr ⟨hmem, hkind, hdated⟩
        rw [endedIfValid, if_pos hvalid]
        exact ⟨rfl, rfl, rfl, .inr (((h kind).valid_iff hkey (Instant.le_refl now)).mp hstate)⟩
    | false =>
        rw [endedIfValid_eq_self hvalid]
        exact Std.Refl.refl k
  · have hmap : (device.keys.filter isDated).map (endedIfValid kind now) =
        (before ++ key :: after).filter isDated := by
      rw [← hkeys, endValidKeys_eq_map, List.filter_map]
      refine congrArg _ (List.filter_congr fun k _ => ?_)
      simp
    rw [hmap]
    simp [hundated, hbegun]

end Device

end HeadEnd
