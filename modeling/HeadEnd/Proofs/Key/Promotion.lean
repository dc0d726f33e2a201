import HeadEnd.Proofs.Key.State

/-! # Bringing keys up to date

What discarding and promoting unconfirmed keys make of the keys of a device, place by place.
-/

namespace HeadEnd.Device

variable {device : Device} {keys : List SecurityKey} {kind j : KeyKind} {kinds : List KeyKind}
  {now : Instant} {place : Nat}

/-! ## Discarding -/

/-- A key other than a master key waits to be confirmed. -/
def HasUnconfirmed (device : Device) (now : Instant) : Prop :=
  ∃ key ∈ device.keys, key.kind ≠ .master ∧ key.state now = .new

instance (device : Device) (now : Instant) : Decidable (device.HasUnconfirmed now) :=
  inferInstanceAs (Decidable (∃ key ∈ device.keys, key.kind ≠ .master ∧ key.state now = .new))

/-- The device without the keys that wait to be confirmed; master keys stay. -/
def withoutUnconfirmed (device : Device) (now : Instant) : Device :=
  { device with keys := device.keys.filter fun key => key.kind = .master ∨ key.state now ≠ .new }

theorem discardNewKeys_discardNewKeys (device : Device) (now : Instant) :
    (device.discardNewKeys .authentication now).discardNewKeys .encryption now =
      device.withoutUnconfirmed now := by
  simp only [discardNewKeys, withoutUnconfirmed, List.filter_filter]
  congr 1
  refine List.filter_congr fun key _ => ?_
  by_cases hnew : key.state now = .new
  · cases hkind : key.kind <;> simp [SecurityKey.is, SecurityKey.isIn, hkind, hnew]
  · simp [SecurityKey.is, SecurityKey.isIn, hnew]

theorem withoutUnconfirmed_eq_self_iff :
    device.withoutUnconfirmed now = device ↔ ¬ device.HasUnconfirmed now := by
  have hkeys : device.withoutUnconfirmed now = device ↔
      (device.keys.filter fun key => key.kind = .master ∨ key.state now ≠ .new) = device.keys := by
    constructor
    · exact congrArg Device.keys
    · intro h
      rw [withoutUnconfirmed, h]
  rw [hkeys, List.filter_eq_self]
  simp only [HasUnconfirmed, decide_eq_true_eq, not_exists, not_and, ne_eq]
  exact forall₂_congr fun key _ => Decidable.or_iff_not_imp_left

theorem not_hasUnconfirmed (h : device.hasNewKeys now = false) : ¬ device.HasUnconfirmed now := by
  rw [← withoutUnconfirmed_eq_self_iff, ← discardNewKeys_discardNewKeys,
    discardNewKeys_eq_self_of_hasNewKeys h, discardNewKeys_eq_self_of_hasNewKeys h]

/-- Discarding the keys of both kinds makes the list of keys shorter exactly if one waits to be
confirmed. -/
theorem hasUnconfirmed_iff_length :
    device.HasUnconfirmed now ↔
      (device.discardNewKeys .authentication now).keys.length < device.keys.length ∨
        ((device.discardNewKeys .authentication now).discardNewKeys .encryption now).keys.length <
          (device.discardNewKeys .authentication now).keys.length := by
  have hlength (kind : KeyKind) (device : Device) :
      (device.discardNewKeys kind now).keys.length ≤ device.keys.length :=
    List.length_filter_le _ _
  have hfirst := hlength .authentication device
  have hsecond := hlength .encryption (device.discardNewKeys .authentication now)
  rw [← Decidable.not_iff_not, ← withoutUnconfirmed_eq_self_iff, not_or]
  constructor
  · intro hself
    rw [discardNewKeys_discardNewKeys, hself] at hsecond ⊢
    omega
  · rintro ⟨hfirst, hsecond⟩
    rw [← discardNewKeys_discardNewKeys, discardNewKeys_eq_self_of_length hsecond,
      discardNewKeys_eq_self_of_length hfirst]

/-! ## Promoting -/

/-- The place of the first unconfirmed key of a kind. -/
def newPlace? (keys : List SecurityKey) (kind : KeyKind) (now : Instant) : Option Nat :=
  keys.findIdx? fun key => key.is kind .new now

/-- What becomes of the key at a place when the first unconfirmed key of its kind is taken into
use. -/
def takenOverAt (keys : List SecurityKey) (now : Instant) (place : Nat) (key : SecurityKey) :
    SecurityKey :=
  if key.state now = .valid then key.endedAt now
  else if newPlace? keys key.kind now = some place then key.begunAt now
  else key

/-- The device after the first unconfirmed key of each of the kinds was taken into use, and those that
were in use out of use. -/
def takenOver (device : Device) (kinds : List KeyKind) (now : Instant) : Device :=
  { device with
    keys := device.keys.mapIdx fun place key =>
      if key.kind ∈ kinds then takenOverAt device.keys now place key else key }

theorem getElem?_takenOver (device : Device) (kinds : List KeyKind) (now : Instant) (place : Nat) :
    (device.takenOver kinds now).keys[place]? = device.keys[place]?.map fun key =>
      if key.kind ∈ kinds then takenOverAt device.keys now place key else key :=
  List.getElem?_mapIdx

theorem takenOver_nil : device.takenOver [] now = device := by
  have hkeys : (device.takenOver [] now).keys = device.keys := by
    refine List.ext_getElem? fun index => ?_
    simp [getElem?_takenOver]
  exact congrArg (fun keys => { device with keys := keys }) hkeys

theorem beginNewKey?_eq_modify (kind : KeyKind) (now : Instant) (keys : List SecurityKey) :
    beginNewKey? kind now keys =
      (newPlace? keys kind now).map fun place => keys.modify place fun key => key.begunAt now := by
  induction keys with
  | nil => rfl
  | cons key rest ih =>
      by_cases hkey : key.is kind .new now = true
      · simp [beginNewKey?, newPlace?, List.findIdx?_cons, hkey]
      · rw [beginNewKey?, if_neg hkey, ih]
        simp [newPlace?, List.findIdx?_cons, hkey, Function.comp_def]

theorem isSome_newPlace?_iff :
    (newPlace? device.keys kind now).isSome = true ↔
      ∃ key, key ∈ device.keysIn kind .new now := by
  rw [newPlace?, List.findIdx?_isSome, List.any_eq_true]
  simp only [keysIn, List.mem_filter]

theorem is_new_of_newPlace? {key : SecurityKey} (h : newPlace? keys kind now = some place)
    (hkey : keys[place]? = some key) : key.is kind .new now = true := by
  obtain ⟨hlt, hnew, _⟩ := List.findIdx?_eq_some_iff_getElem.mp h
  obtain ⟨_, rfl⟩ := List.getElem?_eq_some_iff.mp hkey
  exact hnew

/-- Ending a key that is in use makes no unconfirmed key, nor does it end one. -/
theorem is_new_ended (key : SecurityKey) :
    (if key.is kind .valid now then key.endedAt now else key).is j .new now = key.is j .new now := by
  split
  case isTrue hvalid =>
    rw [SecurityKey.is_iff] at hvalid
    rw [SecurityKey.is_eq_false_of_state, SecurityKey.is_eq_false_of_state]
    · rw [hvalid.2]
      decide
    · rw [SecurityKey.state_endedAt (Instant.le_refl now)]
      decide
  case isFalse => rfl

theorem newPlace?_endValidKeys :
    newPlace? (endValidKeys kind now keys) j now = newPlace? keys j now := by
  rw [newPlace?, endValidKeys, List.findIdx?_map]
  exact congrArg (keys.findIdx? ·) (funext is_new_ended)

/-- What does not tell unconfirmed keys of the kind apart leaves the first of them in its place. -/
theorem newPlace?_mapIdx {f : Nat → SecurityKey → SecurityKey}
    (hf : ∀ place key, (f place key).is kind .new now = key.is kind .new now) :
    newPlace? (keys.mapIdx f) kind now = newPlace? keys kind now := by
  induction keys generalizing f with
  | nil => rfl
  | cons key rest ih =>
      have hrest := ih (f := fun place => f (place + 1)) fun place => hf (place + 1)
      unfold newPlace? at hrest ⊢
      rw [List.mapIdx_cons, List.findIdx?_cons, List.findIdx?_cons, hf, hrest]

/-- What changes no key that satisfies `p`, and lets none satisfy `p` that did not, leaves alone the
keys that do. -/
theorem filter_mapIdx {p : SecurityKey → Bool} {f : Nat → SecurityKey → SecurityKey}
    (hf : ∀ place key, p (f place key) = p key ∧ (p key = true → f place key = key)) :
    (keys.mapIdx f).filter p = keys.filter p := by
  induction keys generalizing f with
  | nil => rfl
  | cons key rest ih =>
      have hrest := ih (f := fun place => f (place + 1)) fun place => hf (place + 1)
      obtain ⟨hkey, hsame⟩ := hf 0 key
      rw [List.mapIdx_cons, List.filter_cons, List.filter_cons, hkey, hrest]
      split
      · rw [hsame ‹_›]
      · rfl

theorem takenOverAt_kind (keys : List SecurityKey) (now : Instant) (place : Nat)
    (key : SecurityKey) : (takenOverAt keys now place key).kind = key.kind := by
  unfold takenOverAt
  split
  · rfl
  · split <;> rfl

/-- Taking over keys of some kinds leaves the unconfirmed keys of the others in their places. -/
theorem newPlace?_takenOver (hkind : kind ∉ kinds) :
    newPlace? (device.takenOver kinds now).keys kind now = newPlace? device.keys kind now := by
  refine newPlace?_mapIdx fun place key => ?_
  split
  · rename_i hmem
    have hne : key.kind ≠ kind := by
      rintro rfl
      exact hkind hmem
    rw [SecurityKey.is_eq_false_of_kind hne,
      SecurityKey.is_eq_false_of_kind (by rwa [takenOverAt_kind])]
  · rfl

/-- The key of the kind at the place is taken over, and what was in use is not any more. -/
theorem modify_endValidKeys (hplace : newPlace? device.keys kind now = some place) :
    (endValidKeys kind now device.keys).modify place (fun key => key.begunAt now) =
      (device.takenOver [kind] now).keys := by
  refine List.ext_getElem? fun index => ?_
  rw [List.getElem?_modify, endValidKeys, List.getElem?_map, getElem?_takenOver]
  cases hkey : device.keys[index]? with
  | none => rfl
  | some key =>
      simp only [Option.map_some, Option.map_eq_map, Option.some.injEq, List.mem_singleton]
      by_cases hindex : place = index
      · subst hindex
        obtain ⟨hkind, hstate⟩ := SecurityKey.is_iff.mp (is_new_of_newPlace? hplace hkey)
        simp [takenOverAt, SecurityKey.is, SecurityKey.isIn, hkind, hstate, hplace]
      · by_cases hkind : key.kind = kind
        · simp [takenOverAt, SecurityKey.is, SecurityKey.isIn, hkind, hindex, hplace]
        · simp [SecurityKey.is, hkind, hindex]

/-- The first unconfirmed key is promoted if there is one. -/
theorem promoteNewKey_eq_takenOver (h : (newPlace? device.keys kind now).isSome = true) :
    device.promoteNewKey kind now = .ok (device.takenOver [kind] now) := by
  obtain ⟨place, hplace⟩ := Option.isSome_iff_exists.mp h
  rw [promoteNewKey, beginNewKey?_eq_modify, newPlace?_endValidKeys, hplace, Option.map_some,
    modify_endValidKeys hplace]
  rfl

/-- Kinds are taken over one after the other. -/
theorem takenOver_takenOver (hkind : kind ∉ kinds) :
    (device.takenOver [kind] now).takenOver kinds now = device.takenOver (kind :: kinds) now := by
  have hkeys : ((device.takenOver [kind] now).takenOver kinds now).keys =
      (device.takenOver (kind :: kinds) now).keys := by
    refine List.ext_getElem? fun index => ?_
    rw [getElem?_takenOver, getElem?_takenOver, getElem?_takenOver, Option.map_map]
    refine congrArg (Option.map · device.keys[index]?) (funext fun key => ?_)
    by_cases hfirst : key.kind = kind
    · subst hfirst
      simp [takenOverAt_kind, hkind]
    · have hplace : newPlace? (device.takenOver [kind] now).keys key.kind now =
          newPlace? device.keys key.kind now := newPlace?_takenOver (by simpa using hfirst)
      simp [hfirst, takenOverAt, hplace]
  exact congrArg (fun keys => { device with keys := keys }) hkeys

end HeadEnd.Device
