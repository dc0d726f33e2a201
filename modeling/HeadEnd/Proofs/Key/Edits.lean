import HeadEnd.Proofs.Key.Ambiguity
import HeadEnd.Proofs.Key.Promotion

/-! # Edits of keys

What adding, discarding and promoting keys do to a device, whatever keys it has. Each of them works on
the keys of one kind; those of the other kinds keep their states, so edits of different kinds may be
made in any order.
-/

namespace HeadEnd.Device

def Edit.kind : Edit → KeyKind
  | .add kind _ => kind
  | .discard kind => kind
  | .promote kind => kind

variable {device promoted : Device} {keys : List SecurityKey} {kind j : KeyKind} {now : Instant}
  {place : Nat} {new : SecurityKey}

/-! ## Promotion -/

/-- What a promotion makes of a device: the first unconfirmed key of the kind, which stands at the
place, is in use from `now` on, the keys of the kind that were in use end at `now`, and everything else
is as it was. -/
structure IsPromotion (device : Device) (kind : KeyKind) (now : Instant) (place : Nat)
    (new : SecurityKey) (promoted : Device) : Prop where
  stands : device.keys[place]? = some new
  isNew : new.is kind .new now = true
  first : ∀ key ∈ device.keys.take place, key.is kind .new now = false
  begun : promoted.keys[place]? = some { new with validFrom := some now }
  only : promoted.keysIn kind .valid now = [{ new with validFrom := some now }]
  ended : ∀ (other : Nat) (key : SecurityKey), device.keys[other]? = some key →
    key.is kind .valid now = true → promoted.keys[other]? = some { key with validTo := some now } ∧
      { key with validTo := some now }.state now = .expired
  kept : ∀ (other : Nat) (key : SecurityKey), device.keys[other]? = some key → other ≠ place →
    key.is kind .valid now = false → promoted.keys[other]? = some key
  length : promoted.keys.length = device.keys.length
  rest : promoted = { device with keys := promoted.keys }

theorem newPlace?_eq_none_iff :
    newPlace? device.keys kind now = none ↔ device.keysIn kind .new now = [] := by
  rw [← Option.not_isSome_iff_eq_none, isSome_newPlace?_iff, List.eq_nil_iff_forall_not_mem,
    not_exists]

theorem promoteNewKey_eq_error (h : device.keysIn kind .new now = []) :
    device.promoteNewKey kind now = .error (.noNewKey kind device.identification) := by
  rw [promoteNewKey, beginNewKey?_eq_modify, newPlace?_endValidKeys, newPlace?_eq_none_iff.mpr h]
  rfl

/-- A promotion fails exactly if no key of the kind is unconfirmed. -/
theorem promoteNewKey_eq_error_iff :
    (∃ fault, device.promoteNewKey kind now = .error fault) ↔ device.keysIn kind .new now = [] := by
  constructor
  · rintro ⟨fault, hfault⟩
    rw [← newPlace?_eq_none_iff, ← Option.not_isSome_iff_eq_none]
    intro hsome
    rw [promoteNewKey_eq_takenOver hsome] at hfault
    cases hfault
  · intro hnone
    exact ⟨_, promoteNewKey_eq_error hnone⟩

/-- A key that is unconfirmed among those that were ended was so before. -/
theorem getElem?_of_endValidKeys (hnew : (endValidKeys kind now keys)[place]? = some new)
    (hstate : new.is kind .new now = true) : keys[place]? = some new := by
  rw [endValidKeys, List.getElem?_map] at hnew
  obtain ⟨key, hkey, rfl⟩ := Option.map_eq_some_iff.mp hnew
  by_cases hvalid : key.is kind .valid now = true
  · rw [if_pos hvalid, SecurityKey.is_iff, SecurityKey.state_endedAt (Instant.le_refl now)] at hstate
    cases hstate.2
  · rw [if_neg hvalid]
    exact hkey

theorem isPromotion_of_promoteNewKey (h : device.promoteNewKey kind now = .ok promoted) :
    ∃ place new, device.IsPromotion kind now place new promoted := by
  obtain ⟨before, new, after, hkeys, hbefore, hnew, rfl⟩ := promoteNewKey_eq_ok h
  have hplace : (endValidKeys kind now device.keys)[before.length]? = some new := by
    rw [hkeys, List.getElem?_append_right (Nat.le_refl _), Nat.sub_self, List.getElem?_cons_zero]
  -- Beginning a key changes one place; at the others stand the keys that were ended.
  have hset : before ++ new.begunAt now :: after =
      (endValidKeys kind now device.keys).set before.length (new.begunAt now) := by
    rw [hkeys, List.set_append_right _ _ (Nat.le_refl _), Nat.sub_self, List.set_cons_zero]
  have hother : ∀ (other : Nat) (key : SecurityKey), device.keys[other]? = some key →
      other ≠ before.length → (before ++ new.begunAt now :: after)[other]? =
        some (if key.is kind .valid now then key.endedAt now else key) := by
    intro other key hkey hne
    rw [hset, List.getElem?_set_ne (Ne.symm hne), endValidKeys, List.getElem?_map, hkey,
      Option.map_some]
  have hstands : device.keys[before.length]? = some new := getElem?_of_endValidKeys hplace hnew
  have honly := filter_valid_begun (Instant.le_refl now) (fun _ _ hvalid => hvalid) hkeys hnew
  refine ⟨before.length, new, hstands, hnew, ?_, ?_, honly, ?_, ?_, ?_, rfl⟩
  · intro key hkey
    have hended : (if key.is kind .valid now then key.endedAt now else key) ∈ before := by
      have hmem := List.mem_map_of_mem (f := fun key : SecurityKey =>
        if key.is kind .valid now then key.endedAt now else key) hkey
      rwa [List.map_take, ← endValidKeys, hkeys, List.take_left] at hmem
    rw [← is_new_ended key]
    exact hbefore _ hended
  · rw [List.getElem?_append_right (Nat.le_refl _), Nat.sub_self, List.getElem?_cons_zero]
    rfl
  · intro other key hkey hvalid
    refine ⟨?_, SecurityKey.state_endedAt (Instant.le_refl now)⟩
    have hne : other ≠ before.length := by
      rintro rfl
      rw [hstands, Option.some.injEq] at hkey
      subst hkey
      rw [SecurityKey.is_iff] at hnew hvalid
      rw [hnew.2] at hvalid
      cases hvalid.2
    rw [hother other key hkey hne, if_pos hvalid]
    rfl
  · intro other key hkey hne hvalid
    rw [hother other key hkey hne, hvalid]
    rfl
  · rw [hset, List.length_set, endValidKeys, List.length_map]

/-! ## Edits of different kinds -/

section Keys

variable {p : SecurityKey → Bool} (hp : ∀ key : SecurityKey, key.kind = kind → p key = true)

include hp

/-- Taking keys away does not change which of the others are ended, if those of the kind stay. -/
theorem endValidKeys_filter (keys : List SecurityKey) :
    endValidKeys kind now (keys.filter p) = (endValidKeys kind now keys).filter p := by
  rw [endValidKeys, endValidKeys, List.filter_map]
  refine congrArg _ (List.filter_congr fun key _ => ?_)
  by_cases hvalid : key.is kind .valid now = true
  · have hkind : key.kind = kind := (SecurityKey.is_iff.mp hvalid).1
    rw [Function.comp_apply, if_pos hvalid, hp key hkind, hp (key.endedAt now) hkind]
  · rw [Function.comp_apply, if_neg hvalid]

/-- Nor does it change which key is taken into use. -/
theorem beginNewKey?_filter (keys : List SecurityKey) :
    beginNewKey? kind now (keys.filter p) = (beginNewKey? kind now keys).map (List.filter p) := by
  induction keys with
  | nil => rfl
  | cons key rest ih =>
      by_cases hnew : key.is kind .new now = true
      · have hkind : key.kind = kind := (SecurityKey.is_iff.mp hnew).1
        rw [List.filter_cons_of_pos (hp key hkind), beginNewKey?, beginNewKey?, if_pos hnew,
          if_pos hnew, Option.map_some, List.filter_cons_of_pos (hp (key.begunAt now) hkind)]
      · rw [beginNewKey?, if_neg hnew, Option.map_map]
        cases hkey : p key with
        | true =>
            rw [List.filter_cons_of_pos hkey, beginNewKey?, if_neg hnew, ih, Option.map_map]
            refine congrArg (Option.map · _) (funext fun keys => ?_)
            simp [hkey]
        | false =>
            rw [List.filter_cons_of_neg (by simp [hkey]), ih]
            refine congrArg (Option.map · _) (funext fun keys => ?_)
            simp [hkey]

end Keys

/-- A key at the end that is not unconfirmed is not taken into use. -/
theorem beginNewKey?_snoc {key : SecurityKey} (hkey : key.is kind .new now = false)
    (keys : List SecurityKey) :
    beginNewKey? kind now (keys ++ [key]) = (beginNewKey? kind now keys).map (· ++ [key]) := by
  induction keys with
  | nil => simp [beginNewKey?, hkey]
  | cons first rest ih =>
      rw [List.cons_append, beginNewKey?, beginNewKey?]
      split
      · rfl
      · rw [ih, Option.map_map, Option.map_map]
        rfl

theorem promoteNewKey_discardNewKeys (hj : j ≠ kind) :
    (device.discardNewKeys j now).promoteNewKey kind now =
      (device.promoteNewKey kind now).map fun promoted => promoted.discardNewKeys j now := by
  have hp : ∀ key : SecurityKey, key.kind = kind → (!key.is j .new now) = true := by
    rintro key rfl
    rw [SecurityKey.is_eq_false_of_kind (Ne.symm hj), Bool.not_false]
  rw [promoteNewKey, discardNewKeys, endValidKeys_filter hp, beginNewKey?_filter hp, promoteNewKey]
  cases beginNewKey? kind now (endValidKeys kind now device.keys) <;> rfl

/-- A key of another kind may as well be put at the end after a promotion. -/
theorem promoteNewKey_append {key : SecurityKey} (hkey : key.kind ≠ kind) :
    { device with keys := device.keys ++ [key] }.promoteNewKey kind now =
      (device.promoteNewKey kind now).map fun promoted =>
        { promoted with keys := promoted.keys ++ [key] } := by
  have hother : ∀ state, key.is kind state now = false :=
    fun _ => SecurityKey.is_eq_false_of_kind hkey
  have hended : endValidKeys kind now (device.keys ++ [key]) =
      endValidKeys kind now device.keys ++ [key] := by
    simp [endValidKeys, hother]
  rw [promoteNewKey, hended, beginNewKey?_snoc (hother .new), promoteNewKey]
  cases beginNewKey? kind now (endValidKeys kind now device.keys) <;> rfl

theorem promoteNewKey_addNewKey (hj : j ≠ kind) (material : String) :
    (device.addNewKey j material now).promoteNewKey kind now =
      (device.promoteNewKey kind now).map fun promoted => promoted.addNewKey j material now := by
  rw [addNewKey, promoteNewKey_append hj, promoteNewKey_discardNewKeys hj]
  cases device.promoteNewKey kind now <;> rfl

/-- A promotion takes over the first unconfirmed key, or fails where there is none. -/
theorem promoteNewKey_eq (device : Device) (kind : KeyKind) (now : Instant) :
    device.promoteNewKey kind now =
      if (newPlace? device.keys kind now).isSome then .ok (device.takenOver [kind] now)
      else .error (.noNewKey kind device.identification) := by
  split
  case isTrue hsome => exact promoteNewKey_eq_takenOver hsome
  case isFalse hnone =>
    rw [Option.not_isSome_iff_eq_none, newPlace?_eq_none_iff] at hnone
    exact promoteNewKey_eq_error hnone

theorem edited_promote (device : Device) (kind : KeyKind) (now : Instant) :
    device.edited (.promote kind) now =
      if (newPlace? device.keys kind now).isSome then device.takenOver [kind] now else device := by
  rw [edited, promoteNewKey_eq]
  by_cases hsome : (newPlace? device.keys kind now).isSome = true
  · rw [if_pos hsome, if_pos hsome]
  · rw [if_neg hsome, if_neg hsome]

/-- Kinds are taken over in any order. -/
theorem takenOver_comm (hj : j ≠ kind) :
    (device.takenOver [j] now).takenOver [kind] now =
      (device.takenOver [kind] now).takenOver [j] now := by
  rw [takenOver_takenOver (by simpa using hj), takenOver_takenOver (by simpa using Ne.symm hj)]
  have hmem : ∀ k, k ∈ [j, kind] ↔ k ∈ [kind, j] := fun _ => (List.Perm.swap kind j []).mem_iff
  simp only [takenOver, hmem]

theorem promoteNewKey_edited_promote (hj : j ≠ kind) :
    (device.edited (.promote j) now).promoteNewKey kind now =
      (device.promoteNewKey kind now).map fun promoted => promoted.edited (.promote j) now := by
  have hplace : newPlace? (device.takenOver [j] now).keys kind now =
      newPlace? device.keys kind now := newPlace?_takenOver (by simpa using Ne.symm hj)
  have hplace' : newPlace? (device.takenOver [kind] now).keys j now =
      newPlace? device.keys j now := newPlace?_takenOver (by simpa using hj)
  rw [edited_promote, promoteNewKey_eq device]
  by_cases hfirst : (newPlace? device.keys j now).isSome = true
  · rw [if_pos hfirst, promoteNewKey_eq, hplace]
    split
    · rw [Except.map, edited_promote, hplace', if_pos hfirst, takenOver_comm hj]
    · rfl
  · rw [if_neg hfirst, promoteNewKey_eq]
    split
    · rw [Except.map, edited_promote, hplace', if_neg hfirst]
    · rfl

/-- A promotion may as well be made before an edit of another kind. -/
theorem promoteNewKey_edited {edit : Edit} (hedit : edit.kind ≠ kind) :
    (device.edited edit now).promoteNewKey kind now =
      (device.promoteNewKey kind now).map fun promoted => promoted.edited edit now := by
  cases edit with
  | add j material => exact promoteNewKey_addNewKey hedit material
  | discard j => exact promoteNewKey_discardNewKeys hedit
  | promote j => exact promoteNewKey_edited_promote hedit

theorem discardNewKeys_comm (device : Device) (kind j : KeyKind) (now : Instant) :
    (device.discardNewKeys j now).discardNewKeys kind now =
      (device.discardNewKeys kind now).discardNewKeys j now := by
  simp only [discardNewKeys, List.filter_filter, Bool.and_comm]

/-- Unconfirmed keys may as well be discarded before an edit of another kind. -/
theorem discardNewKeys_edited {edit : Edit} (hedit : edit.kind ≠ kind) :
    (device.edited edit now).discardNewKeys kind now =
      (device.discardNewKeys kind now).edited edit now := by
  cases edit with
  | add j material =>
      have hother : (SecurityKey.unconfirmed j material).is kind .new now = false :=
        SecurityKey.is_eq_false_of_kind hedit
      rw [edited, edited, addNewKey, addNewKey, ← discardNewKeys_comm]
      simp [discardNewKeys, hother]
  | discard j => exact discardNewKeys_comm device kind j now
  | promote j =>
      have hpromoted : (device.discardNewKeys kind now).promoteNewKey j now =
          (device.promoteNewKey j now).map fun promoted => promoted.discardNewKeys kind now :=
        promoteNewKey_discardNewKeys (Ne.symm hedit)
      rw [edited, edited, hpromoted]
      cases device.promoteNewKey j now <;> rfl

/-- An edit leaves the unconfirmed keys of the other kinds. -/
theorem keysIn_new_edited {edit : Edit} (hedit : edit.kind ≠ kind) :
    (device.edited edit now).keysIn kind .new now = device.keysIn kind .new now := by
  have hdiscarded : (device.discardNewKeys edit.kind now).keysIn kind .new now =
      device.keysIn kind .new now := by
    rw [keysIn_discardNewKeys, List.filter_eq_self]
    intro key hkey
    rw [SecurityKey.is_eq_false_of_kind, Bool.not_false]
    rw [(mem_keysIn.mp hkey).2.1]
    exact Ne.symm hedit
  cases edit with
  | add j material =>
      have hother : (SecurityKey.unconfirmed j material).is kind .new now = false :=
        SecurityKey.is_eq_false_of_kind hedit
      rw [edited, keysIn_addNewKey, List.filter_cons_of_neg (by simp [hother]), List.filter_nil,
        List.append_nil]
      exact hdiscarded
  | discard j => exact hdiscarded
  | promote j =>
      rw [edited]
      split
      case h_1 promoted hpromoted => exact keysIn_promoteNewKey_of_ne (Ne.symm hedit) hpromoted
      case h_2 => rfl

/-- Adding a key changes only which key of its kind is unconfirmed. -/
theorem filter_addNewKey (device : Device) (kind : KeyKind) (material : String) (now : Instant) :
    ((device.addNewKey kind material now).keys.filter fun key => !key.is kind .new now) =
      device.keys.filter fun key => !key.is kind .new now := by
  have hadded : (SecurityKey.unconfirmed kind material).is kind .new now = true :=
    SecurityKey.is_iff.mpr ⟨rfl, SecurityKey.state_unconfirmed⟩
  simp [addNewKey, discardNewKeys, hadded]

/-- A promotion fails exactly if no key of the kind is unconfirmed, and then changes nothing;
otherwise it takes the first such key into use in place of those that were in use, and changes nothing
else. Adding a key replaces the unconfirmed keys of its kind, and those only. Promoting and discarding
keys of a kind may be put before or after any edit of another kind. -/
theorem edits_replace_and_commute (device : Device) (kind : KeyKind) (now : Instant) :
    (((∃ fault, device.promoteNewKey kind now = .error fault) ↔ device.keysIn kind .new now = []) ∧
      ∀ fault, device.promoteNewKey kind now = .error fault →
        device.edited (.promote kind) now = device) ∧
    (∀ promoted, device.promoteNewKey kind now = .ok promoted →
      ∃ place new, device.IsPromotion kind now place new promoted) ∧
    (∀ material, ∃ added, device.addNewKey kind material now = { device with keys := added } ∧
      (added.filter fun key => key.is kind .new now) = [⟨kind, material, none, none⟩] ∧
      (added.filter fun key => !key.is kind .new now) =
        device.keys.filter fun key => !key.is kind .new now) ∧
    ∀ edit : Edit, edit.kind ≠ kind →
      (device.edited edit now).promoteNewKey kind now =
        (device.promoteNewKey kind now).map (fun promoted => promoted.edited edit now) ∧
      (device.edited edit now).discardNewKeys kind now =
        (device.discardNewKeys kind now).edited edit now ∧
      (device.edited edit now).keysIn kind .new now = device.keysIn kind .new now := by
  refine ⟨⟨promoteNewKey_eq_error_iff, fun fault hfault => ?_⟩,
    fun promoted => isPromotion_of_promoteNewKey, fun material => ⟨_, rfl, ?_, ?_⟩,
    fun edit hedit => ⟨promoteNewKey_edited hedit, discardNewKeys_edited hedit,
      keysIn_new_edited hedit⟩⟩
  · rw [edited, hfault]
  · exact keysIn_new_addNewKey (Instant.le_refl now)
  · exact filter_addNewKey device kind material now

/-- A device that has, at the instant 5, two authentication keys in use, one of them since then, one
that is to be used later, and two that wait to be confirmed, one of them with an end. -/
def mixedDevice : Device where
  identification := "meter"
  keys := [
    ⟨.authentication, "a1", some ⟨0, 0⟩, some ⟨20, 0⟩⟩,
    .unconfirmed .encryption "e2",
    ⟨.authentication, "a2", some ⟨5, 0⟩, none⟩,
    ⟨.authentication, "a3", none, some ⟨9, 0⟩⟩,
    .unconfirmed .authentication "a4",
    ⟨.authentication, "a5", some ⟨8, 0⟩, none⟩,
    ⟨.encryption, "e1", some ⟨0, 0⟩, none⟩]

theorem edits_replace_and_commute_of_mixed_keys :
    (∃ promoted place new, mixedDevice.promoteNewKey .authentication ⟨5, 0⟩ = .ok promoted ∧
      mixedDevice.IsPromotion .authentication ⟨5, 0⟩ place new promoted ∧
      promoted.keysIn .authentication .valid ⟨5, 0⟩ =
        [⟨.authentication, "a3", some ⟨5, 0⟩, some ⟨9, 0⟩⟩]) ∧
    mixedDevice.edited (.promote .master) ⟨5, 0⟩ = mixedDevice ∧
    (mixedDevice.edited (.promote .encryption) ⟨5, 0⟩).promoteNewKey .authentication ⟨5, 0⟩ =
      (mixedDevice.promoteNewKey .authentication ⟨5, 0⟩).map fun promoted =>
        promoted.edited (.promote .encryption) ⟨5, 0⟩ := by
  obtain ⟨-, hpromoted, -, hcommute⟩ :=
    edits_replace_and_commute mixedDevice .authentication ⟨5, 0⟩
  obtain ⟨⟨hfails, hunchanged⟩, -⟩ := edits_replace_and_commute mixedDevice .master ⟨5, 0⟩
  refine ⟨?_, ?_, (hcommute (.promote .encryption) (by decide)).1⟩
  · obtain ⟨place, new, hpromotion⟩ := hpromoted _ rfl
    exact ⟨_, place, new, rfl, hpromotion, by decide⟩
  · obtain ⟨fault, hfault⟩ := hfails.mpr (by decide)
    exact hunchanged fault hfault

end HeadEnd.Device
