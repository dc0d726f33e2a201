import HeadEnd.Proofs.Key.Change
import HeadEnd.Proofs.Key.State
import HeadEnd.Proofs.Session.History

/-! # Key changes are written ahead

Whatever a change of a key fails at, the new key is stored before the meter is told of it, and in
the record it is in use only after the meter and the session have taken it over.
-/

namespace HeadEnd

open scoped List

/-! ## What a change has done -/

/-- The new key as it is stored before the meter uses it. -/
def KeyChange.key (change : KeyChange) : SecurityKey :=
  .unconfirmed change.kind (Hex.text change.material)

/-- The record holds the new key, and the key in use as before. -/
structure KeyChange.IsStaged (change : KeyChange) (record : Device) (previous : SecurityKey)
    (begun staged : Instant) : Prop where
  new : ∀ t, change.key ∈ record.keysIn change.kind .new t
  only_new : ∀ t, staged ≤ t → record.keysIn change.kind .new t = [change.key]
  valid : record.validKey? change.kind begun = some previous

/-- The record holds the new key in use, and the previous key expired. -/
structure KeyChange.IsPromoted (change : KeyChange) (record : Device) (previous : SecurityKey)
    (now : Instant) : Prop where
  valid : ∀ t, now ≤ t → change.key.begunAt now ∈ record.keysIn change.kind .valid t
  only_valid : record.keysIn change.kind .valid now = [change.key.begunAt now]
  expired : ∃ ended ∈ record.keys, (ended = previous ∨ ended = previous.endedAt now) ∧
    ∀ t, now ≤ t → ended.state t = .expired

/-- What a change knows when it stores its new key. -/
structure Staging (change : KeyChange) (device : Device) where
  role : KeyRole
  begun : Instant
  staged : Instant
  master : SecurityKey
  previous : SecurityKey
  transferRole_eq : change.kind.transferRole = .ok role
  validKey?_master : device.validKey? .master begun = some master
  validKey?_kind : device.validKey? change.kind begun = some previous

variable {change : KeyChange} {device : Device}

namespace Staging

def record (staging : Staging change device) : Device :=
  device.addNewKey change.kind (Hex.text change.material) staging.staged

def turns (staging : Staging change device) : List (Turn Answer) :=
  [⟨.clock, staging.begun⟩, ⟨.clock, staging.staged⟩]

theorem isStaged (staging : Staging change device) :
    change.IsStaged staging.record staging.previous staging.begun staging.staged where
  new _ := Device.mem_keysIn.mpr ⟨Device.mem_addNewKey .., rfl, rfl⟩
  only_new _ ht := Device.keysIn_new_addNewKey ht
  valid := by
    rw [Device.validKey?, Device.key?_eq, record, Device.keysIn_valid_addNewKey,
      ← Device.key?_eq]
    exact staging.validKey?_kind

theorem mem_of_promoteNewKey (staging : Staging change device) {now : Instant} {record : Device}
    (h : staging.record.promoteNewKey change.kind now = .ok record) :
    (∀ t, change.key ∈ record.keysIn change.kind .new t) ∨
      ∀ t, now ≤ t → change.key.begunAt now ∈ record.keysIn change.kind .valid t := by
  rcases Device.mem_promoteNewKey_of_unconfirmed (Device.mem_addNewKey ..) h with hmem | hmem
  · exact .inl fun t => Device.mem_keysIn.mpr ⟨hmem, rfl, rfl⟩
  · exact .inr fun t ht => Device.mem_keysIn.mpr ⟨hmem, rfl, SecurityKey.state_begunAt rfl ht⟩

/-- If the clock does not go back, the key that is promoted is the one that was staged. -/
theorem isPromoted (staging : Staging change device) {now : Instant} {record : Device}
    (hbegun : staging.begun ≤ now) (hstaged : staging.staged ≤ now)
    (h : staging.record.promoteNewKey change.kind now = .ok record) :
    change.IsPromoted record staging.previous now := by
  have honly : record.keysIn change.kind .valid now = [change.key.begunAt now] :=
    Device.keysIn_valid_promoteNewKey (Instant.le_refl now) (fun _ _ hvalid => hvalid)
      (staging.isStaged.only_new now hstaged) (SecurityKey.is_iff.mpr ⟨rfl, rfl⟩) h
  refine ⟨fun t ht => ?_, honly, ?_⟩
  · have hmem : change.key.begunAt now ∈ record.keysIn change.kind .valid now := by
      rw [honly]
      exact List.mem_singleton_self _
    exact Device.mem_keysIn.mpr
      ⟨(Device.mem_keysIn.mp hmem).1, rfl, SecurityKey.state_begunAt rfl ht⟩
  · have hprevious := staging.isStaged.valid
    rw [Device.validKey?, Device.key?_eq] at hprevious
    exact Device.exists_expired_promoteNewKey (List.mem_of_head? hprevious) hbegun h

end Staging

/-- What a change knows when it tells the meter of its new key. -/
structure Preparation (change : KeyChange) (device : Device) extends Staging change device where
  masterData : List UInt8
  masterKey : List UInt8
  newKey : List UInt8
  wrapped : List UInt8
  decode_master : Hex.decode master.material.toList = .ok masterData
  unwrap_eq : Cipher.KeyWrap.unwrap Cipher.Aes.cipher masterKey wrapped = .ok newKey

namespace Preparation

def method (preparation : Preparation change device) : MethodCall :=
  KeyChange.transfer preparation.role preparation.wrapped

def turns (preparation : Preparation change device) : List (Turn Answer) :=
  preparation.toStaging.turns ++ [⟨.save preparation.record, .ok preparation.record⟩,
    ⟨.decrypt preparation.masterData, .ok preparation.masterKey⟩,
    ⟨.decrypt change.material, .ok preparation.newKey⟩]

/-- The turns up to the promotion of the new key. -/
def confirmation (preparation : Preparation change device) (now : Instant) : List (Turn Answer) :=
  preparation.turns ++ [⟨.call preparation.method, .ok .success⟩,
    ⟨.adoptKey change.kind preparation.newKey, .ok ()⟩, ⟨.clock, now⟩]

theorem isPromoted_of_chronological (preparation : Preparation change device) {now : Instant}
    {record : Device} {history : List (Turn Answer)}
    (hturns : preparation.confirmation now <+ history) (hhistory : Chronological history)
    (h : preparation.record.promoteNewKey change.kind now = .ok record) :
    change.IsPromoted record preparation.previous now := by
  have htimes : List.Pairwise (· ≤ ·) [preparation.begun, preparation.staged, now] :=
    hhistory.sublist hturns
  simp only [List.pairwise_cons, List.mem_cons, List.not_mem_nil, or_false, forall_eq_or_imp,
    forall_eq] at htimes
  exact preparation.isPromoted htimes.1.2 htimes.2.1 h

end Preparation

namespace KeyChange

/-! ## The law of a change -/

/-- What a change asks in view of what it has asked before. -/
def Law (change : KeyChange) (device : Device) (past : List (Turn Answer)) : Turn Answer → Prop
  | ⟨.call method, _⟩ =>
    ∃ preparation : Preparation change device, preparation.turns <+ past ∧
      method = preparation.method
  | ⟨.save record, _⟩ =>
    (∃ staging : Staging change device, staging.turns <+ past ∧ record = staging.record) ∨
      ∃ (preparation : Preparation change device) (now : Instant),
        preparation.confirmation now <+ past ∧
        preparation.record.promoteNewKey change.kind now = .ok record
  | _ => True

/-- The history is lawful, and a change that succeeded has stored the promoted key at its end. -/
def Obeys (change : KeyChange) (device : Device) (r : Outcome Unit) (d : Device)
    (history : List (Turn Answer)) : Prop :=
  Lawful (change.Law device) history ∧
  (r = .ok () → ∃ (preparation : Preparation change device) (now : Instant),
    preparation.confirmation now ++ [⟨.save d, .ok d⟩] <+ history ∧
    preparation.record.promoteNewKey change.kind now = .ok d)

theorem obeys_of_failure {failure : Failure} {d : Device} {history : List (Turn Answer)}
    (h : Lawful (change.Law device) history) : change.Obeys device (.error failure) d history :=
  ⟨h, fun hok => by cases hok⟩

theorem ensures_confirm_obeys (preparation : Preparation change device)
    {history : List (Turn Answer)} (h : Lawful (change.Law device) history)
    (hturns : preparation.turns ++ [⟨.call preparation.method, .ok .success⟩,
      ⟨.adoptKey change.kind preparation.newKey, .ok ()⟩] <+ history) :
    Task.Ensures (recording Turn.IsFaithful) (confirm change.kind) preparation.record history
      (change.Obeys device) := by
  rw [ensures_confirm]
  rintro now _ ⟨_, rfl⟩
  have hnow : Lawful (change.Law device) (history ++ [⟨.clock, now⟩]) := h.snoc _ trivial
  have hconfirmation : preparation.confirmation now <+ history ++ [⟨.clock, now⟩] := by
    simpa [Preparation.confirmation] using hturns.append (.refl [⟨.clock, now⟩])
  cases hpromoted : preparation.record.promoteNewKey change.kind now with
  | error fault => exact obeys_of_failure hnow
  | ok promoted =>
      rintro answer _ ⟨hfaithful, rfl⟩
      have hsaved := hnow.snoc ⟨.save promoted, answer⟩
        (Or.inr ⟨preparation, now, hconfirmation, hpromoted⟩)
      cases answer with
      | error failure => exact obeys_of_failure hsaved
      | ok stored =>
          obtain rfl : stored = promoted := hfaithful
          exact ⟨hsaved, fun _ => ⟨preparation, now, hconfirmation.append (.refl _), hpromoted⟩⟩

theorem ensures_deliver_obeys (staging : Staging change device)
    (h : Lawful (change.Law device)
      (staging.turns ++ [⟨.save staging.record, .ok staging.record⟩])) :
    Task.Ensures (recording Turn.IsFaithful) (change.deliver staging.role staging.master)
      staging.record (staging.turns ++ [⟨.save staging.record, .ok staging.record⟩])
      fun r d history => d = staging.record ∧ Lawful (change.Law device) history ∧
        ∀ newKey, r = .ok newKey → ∃ preparation : Preparation change device,
          preparation.record = staging.record ∧ preparation.newKey = newKey ∧
          preparation.turns ++ [⟨.call preparation.method, .ok .success⟩] <+ history := by
  rw [deliver, Task.ensures_bind, ensures_decryptStored]
  cases hdata : Hex.decode staging.master.material.toList with
  | error fault => exact ⟨rfl, h, fun _ hok => by cases hok⟩
  | ok data =>
      rintro answer _ ⟨_, rfl⟩
      have hmasterKey := h.snoc ⟨.decrypt data, answer⟩ trivial
      rcases answer with failure | masterKey
      · exact ⟨rfl, hmasterKey, fun _ hok => by cases hok⟩
      dsimp only
      rw [Task.ensures_bind]
      refine Operation.ensures_decrypt.mpr ?_
      rintro answer _ ⟨_, rfl⟩
      have hnewKey := hmasterKey.snoc ⟨.decrypt change.material, answer⟩ trivial
      rcases answer with failure | newKey
      · exact ⟨rfl, hnewKey, fun _ hok => by cases hok⟩
      dsimp only
      rw [Task.ensures_bind, Operation.ensures_lift]
      cases hwrap : Cipher.KeyWrap.wrap Cipher.Aes.cipher masterKey newKey with
      | error fault => exact ⟨rfl, hnewKey, fun _ hok => by cases hok⟩
      | ok wrapped =>
          let preparation : Preparation change device :=
            ⟨staging, data, masterKey, newKey, wrapped, hdata, unwrap_of_wrap hwrap⟩
          dsimp only [Except.mapError]
          rw [Task.ensures_bind, Operation.ensures_describe]
          rintro history ⟨_, hhistory⟩
          obtain ⟨text, rfl⟩ : ∃ text, history =
              preparation.turns ++ [⟨.describe text, ()⟩] := ⟨_, hhistory⟩
          have hdescribed : Lawful (change.Law device)
              (preparation.turns ++ [⟨.describe text, ()⟩]) := hnewKey.snoc _ trivial
          dsimp only
          rw [Task.ensures_bind]
          refine Operation.ensures_callMethod.mpr ?_
          rintro answer _ ⟨_, rfl⟩
          have hcalled := hdescribed.snoc ⟨.call preparation.method, answer⟩
            ⟨preparation, List.sublist_append_left _ _, rfl⟩
          rcases answer with failure | result
          · exact ⟨rfl, hcalled, fun _ hok => by cases hok⟩
          dsimp only
          rw [Task.ensures_bind, Operation.ensures_lift]
          cases hcheck : result.check ("replace " ++ change.kind.label ++ " key") with
          | error failure => exact ⟨rfl, hcalled, fun _ hok => by cases hok⟩
          | ok _ =>
              obtain rfl := MethodResult.check_eq_ok_iff.mp hcheck
              refine Task.ensures_pure.mpr ⟨rfl, hcalled, fun key hok => ?_⟩
              refine ⟨preparation, rfl, Except.ok.inj hok, ?_⟩
              exact (List.sublist_append_left _ _).append (.refl _)

theorem ensures_proceed_obeys {role : KeyRole} {begun : Instant} {master previous : SecurityKey}
    (hrole : change.kind.transferRole = .ok role)
    (hmaster : device.validKey? .master begun = some master)
    (hprevious : device.validKey? change.kind begun = some previous)
    (h : Lawful (change.Law device) [⟨.clock, begun⟩]) :
    Task.Ensures (recording Turn.IsFaithful) (change.proceed role master) device
      [⟨.clock, begun⟩] (change.Obeys device) := by
  rw [proceed, Task.ensures_bind, ensures_stage]
  rintro staged _ ⟨_, rfl⟩ answer _ ⟨hfaithful, rfl⟩
  let staging : Staging change device :=
    ⟨role, begun, staged, master, previous, hrole, hmaster, hprevious⟩
  have hstaged : Lawful (change.Law device) staging.turns := h.snoc _ trivial
  have hsave := hstaged.snoc ⟨.save staging.record, answer⟩ (Or.inl ⟨staging, .refl _, rfl⟩)
  rcases answer with failure | stored
  · exact obeys_of_failure hsave
  obtain rfl : stored = staging.record := hfaithful
  dsimp only
  rw [Task.ensures_bind]
  refine (ensures_deliver_obeys staging hsave).imp ?_
  rintro (failure | newKey) d history ⟨rfl, hdelivered, hprepared⟩
  · exact obeys_of_failure hdelivered
  obtain ⟨preparation, hrecord, rfl, hturns⟩ := hprepared newKey rfl
  dsimp only
  rw [Task.ensures_bind]
  refine Operation.ensures_adoptKey.mpr ?_
  rintro answer _ ⟨_, rfl⟩
  have hadopted := hdelivered.snoc ⟨.adoptKey change.kind preparation.newKey, answer⟩ trivial
  rcases answer with failure | _
  · exact obeys_of_failure hadopted
  rw [← hrecord]
  refine ensures_confirm_obeys preparation hadopted ?_
  simpa using hturns.append (.refl [⟨.adoptKey change.kind preparation.newKey, .ok ()⟩])

/-- Whatever is answered, a change obeys its law. -/
theorem ensures_execute_obeys (change : KeyChange) (device : Device) :
    Task.Ensures (recording Turn.IsFaithful) change.execute device [] (change.Obeys device) := by
  rw [ensures_execute]
  cases hrole : change.kind.transferRole with
  | error failure => exact obeys_of_failure .nil
  | ok role =>
      rintro begun _ ⟨_, rfl⟩
      have hbegun : Lawful (change.Law device) [⟨.clock, begun⟩] := Lawful.nil.snoc _ trivial
      rw [Device.validKey, Device.validKey]
      cases hmaster : device.validKey? .master begun with
      | none => exact obeys_of_failure hbegun
      | some master =>
          cases hprevious : device.validKey? change.kind begun with
          | none => exact obeys_of_failure hbegun
          | some previous => exact ensures_proceed_obeys hrole hmaster hprevious hbegun

/-! ## What is seen of a change -/

/-- A change that cannot be made asks no more than the time, and changes nothing. -/
theorem ensures_execute_refused (change : KeyChange) (device : Device) :
    Task.Ensures (recording Turn.IsFaithful) change.execute device [] fun r d history =>
      (change.kind = .master ∨ ∃ begun rest, history = ⟨.clock, begun⟩ :: rest ∧
        (device.validKey? .master begun = none ∨ device.validKey? change.kind begun = none)) →
      (∃ failure, r = .error failure) ∧ d = device ∧ ∀ turn ∈ history, turn.question = .clock := by
  rw [ensures_execute]
  cases hrole : change.kind.transferRole with
  | error failure =>
      intro _
      exact ⟨⟨failure, rfl⟩, rfl, fun turn hturn => absurd hturn List.not_mem_nil⟩
  | ok role =>
      rintro begun _ ⟨_, rfl⟩
      have hclock : ∀ turn ∈ ([⟨.clock, begun⟩] : List (Turn Answer)), turn.question = .clock := by
        simp
      rw [Device.validKey, Device.validKey]
      cases hmaster : device.validKey? .master begun with
      | none => exact fun _ => ⟨⟨_, rfl⟩, rfl, hclock⟩
      | some master =>
          cases hprevious : device.validKey? change.kind begun with
          | none => exact fun _ => ⟨⟨_, rfl⟩, rfl, hclock⟩
          | some previous =>
              -- There are both keys: whatever the change does from now on, it was not refused.
              rintro ⟨r, d⟩ history hruns hrefused
              obtain ⟨own, rfl, _⟩ := hruns.exists_own []
              rcases hrefused with hkind | ⟨begun', rest, hhistory, hnone | hnone⟩
              · rw [hkind] at hrole
                cases hrole
              · cases hhistory
                exact absurd (hmaster.symm.trans hnone) (Option.some_ne_none master)
              · cases hhistory
                exact absurd (hprevious.symm.trans hnone) (Option.some_ne_none previous)

/-- What is stored after a part of a change. -/
inductive Stores (change : KeyChange) (device : Device) (past : List (Turn Answer))
    (record : Device) : Prop where
  | staged (staging : Staging change device) :
      staging.turns <+ past →
      change.IsStaged record staging.previous staging.begun staging.staged →
      Stores change device past record
  | promoted (preparation : Preparation change device) (now : Instant) :
      preparation.confirmation now <+ past →
      ((∀ t, change.key ∈ record.keysIn change.kind .new t) ∨
        ∀ t, now ≤ t → change.key.begunAt now ∈ record.keysIn change.kind .valid t) →
      (Chronological past → change.IsPromoted record preparation.previous now) →
      Stores change device past record

theorem stores_of_lawful {history past rest : List (Turn Answer)} {record : Device}
    (h : Lawful (change.Law device) history) (hfaithful : ∀ turn ∈ history, turn.IsFaithful)
    (hpast : history = past ++ rest) (hstored : lastStored? past = some record) :
    change.Stores device past record := by
  subst hpast
  obtain ⟨before, after, rfl⟩ := exists_turn_of_lastStored? hstored fun turn hturn =>
    hfaithful turn (List.mem_append_left rest hturn)
  have hbefore : before <+ before ++ ⟨.save record, .ok record⟩ :: after :=
    List.sublist_append_left _ _
  rcases h.of_append before _ after rfl with
    ⟨staging, hturns, rfl⟩ | ⟨preparation, now, hturns, hpromoted⟩
  · exact .staged staging (hturns.trans hbefore) staging.isStaged
  · exact .promoted preparation now (hturns.trans hbefore)
      (preparation.mem_of_promoteNewKey hpromoted) fun hchronological =>
      preparation.isPromoted_of_chronological (hturns.trans hbefore) hchronological hpromoted

end KeyChange

/-! ## Pairs of changes -/

namespace KeyPair

def first (keys : KeyPair) : KeyChange := ⟨.authentication, keys.authentication⟩

def second (keys : KeyPair) : KeyChange := ⟨.encryption, keys.encryption⟩

variable {keys : KeyPair}

/-- The turns of a pair obey the law of the first change until its key is stored as promoted, and
the law of the second change from then on. -/
def Law (keys : KeyPair) (device : Device) (past : List (Turn Answer))
    (turn : Turn Answer) : Prop :=
  keys.first.Law device past turn ∨
    ∃ (preparation : Preparation keys.first device) (now : Instant) (stored : Device)
      (before after : List (Turn Answer)), past = before ++ after ∧
      preparation.confirmation now ++ [⟨.save stored, .ok stored⟩] <+ before ∧
      preparation.record.promoteNewKey .authentication now = .ok stored ∧
      keys.second.Law stored after turn

theorem ensures_execute_lawful (keys : KeyPair) (device : Device) :
    Task.Ensures (recording Turn.IsFaithful) keys.execute device [] fun _ _ history =>
      Lawful (keys.Law device) history := by
  rw [execute, Task.ensures_bind]
  refine (KeyChange.ensures_execute_obeys keys.first device).imp ?_
  rintro (failure | _) d before ⟨hbefore, hconfirmed⟩
  · exact hbefore.imp fun _ _ => .inl
  · obtain ⟨preparation, now, hturns, hpromoted⟩ := hconfirmed rfl
    dsimp only
    rw [Task.ensures_bind]
    refine ((KeyChange.ensures_execute_obeys keys.second d).after before).imp ?_
    rintro ⟨r, d'⟩ _ ⟨after, rfl, hafter, _⟩
    have hlawful : Lawful (keys.Law device) (before ++ after) := by
      refine (hbefore.append hafter).imp fun past turn hturn => hturn.imp_right ?_
      rintro ⟨after, rfl, hlaw⟩
      exact ⟨preparation, now, d, before, after, rfl, hturns, hpromoted, hlaw⟩
    cases r with
    | error failure => exact hlawful
    | ok _ =>
        dsimp only
        rw [Task.ensures_bind, Task.ensures_get]
        exact Task.ensures_pure.mpr hlawful

/-- The transfer of the encryption key comes after the authentication key was stored as promoted. -/
theorem exists_of_call {device : Device} {history past rest : List (Turn Answer)}
    {wrapped : List UInt8} {answer : Outcome MethodResult}
    (h : Lawful (keys.Law device) history)
    (hcall : history =
      past ++ ⟨.call (KeyChange.transfer .globalUnicastEncryption wrapped), answer⟩ :: rest) :
    ∃ (first : Preparation keys.first device) (now : Instant) (stored : Device)
      (second : Preparation keys.second stored),
      first.confirmation now ++ [⟨.save stored, .ok stored⟩] ++ second.turns <+ past ∧
      KeyChange.transfer .globalUnicastEncryption wrapped = second.method ∧
      (Chronological past → keys.first.IsPromoted stored first.previous now) := by
  rcases h past _ rest hcall with
    ⟨preparation, _, hmethod⟩ | ⟨first, now, stored, before, after, rfl, hfirst, hpromoted, hlaw⟩
  · have hrole := preparation.transferRole_eq
    rw [← (KeyChange.transfer_inj hmethod).1] at hrole
    cases hrole
  · obtain ⟨second, hsecond, hmethod⟩ := hlaw
    have hconfirmation : first.confirmation now <+ before ++ after :=
      (List.sublist_append_left _ _).trans (hfirst.trans (List.sublist_append_left _ _))
    exact ⟨first, now, stored, second, hfirst.append hsecond, hmethod, fun hchronological =>
      first.isPromoted_of_chronological hconfirmation hchronological hpromoted⟩

end KeyPair

/-- A change is only told to the meter after it was stored, and is stored as promoted only after the
meter and the session have taken it over; of a pair the second change is made after that. -/
theorem keyChanges_written_ahead (device : Device) :
    (∀ (change : KeyChange) (r : Outcome Unit) (d : Device) (history : List (Turn Answer)),
      Dialogue.Runs (recording Turn.IsFaithful) (change.execute.run.run device) [] (r, d)
        history →
      ((change.kind = .master ∨ ∃ begun rest, history = ⟨.clock, begun⟩ :: rest ∧
          (device.validKey? .master begun = none ∨ device.validKey? change.kind begun = none)) →
        (∃ failure, r = .error failure) ∧ d = device ∧
          ∀ turn ∈ history, turn.question = .clock) ∧
      (∀ past method answer rest, history = past ++ ⟨.call method, answer⟩ :: rest →
        ∃ preparation : Preparation change device, preparation.turns <+ past ∧
          method = preparation.method ∧ change.IsStaged preparation.record preparation.previous
            preparation.begun preparation.staged) ∧
      ∀ past rest record, history = past ++ rest → lastStored? past = some record →
        change.Stores device past record) ∧
    ∀ (keys : KeyPair) (r : Outcome String) (d : Device) (history : List (Turn Answer)),
      Dialogue.Runs (recording Turn.IsFaithful) (keys.execute.run.run device) [] (r, d) history →
      ∀ past wrapped answer rest, history =
          past ++ ⟨.call (KeyChange.transfer .globalUnicastEncryption wrapped), answer⟩ :: rest →
        ∃ (first : Preparation keys.first device) (now : Instant) (stored : Device)
          (second : Preparation keys.second stored),
          first.confirmation now ++ [⟨.save stored, .ok stored⟩] ++ second.turns <+ past ∧
          KeyChange.transfer .globalUnicastEncryption wrapped = second.method ∧
          (Chronological past → keys.first.IsPromoted stored first.previous now) := by
  constructor
  · intro change r d history hruns
    have hlawful : Lawful (change.Law device) history :=
      (change.ensures_execute_obeys device _ _ hruns).1
    have hfaithful : ∀ turn ∈ history, turn.IsFaithful :=
      hruns.forall_fair fun _ h => absurd h List.not_mem_nil
    refine ⟨change.ensures_execute_refused device _ _ hruns, ?_, ?_⟩
    · intro past method answer rest hcall
      obtain ⟨preparation, hturns, hmethod⟩ := hlawful past _ rest hcall
      exact ⟨preparation, hturns, hmethod, preparation.isStaged⟩
    · intro past rest record hpast hstored
      exact KeyChange.stores_of_lawful hlawful hfaithful hpast hstored
  · intro keys r d history hruns past wrapped answer rest hcall
    exact KeyPair.exists_of_call (keys.ensures_execute_lawful device _ _ hruns) hcall

/-- A world in which the clock stands still and nothing goes wrong; keys are stored as they are. -/
def obligingAnswer : (question : Question) → Answer question
  | .clock => ⟨0, 0⟩
  | .read _ => .ok (.success .null)
  | .readBatch _ => .ok []
  | .write _ => .ok .success
  | .call _ => .ok .success
  | .adoptKey _ _ => .ok ()
  | .describe _ => ()
  | .save device => .ok device
  | .decrypt data => .ok data

def keyedDevice : Device where
  identification := "meter"
  keys := [
    ⟨.master, Hex.text (List.replicate 16 1), some ⟨0, 0⟩, none⟩,
    ⟨.authentication, Hex.text (List.replicate 16 2), some ⟨0, 0⟩, none⟩,
    ⟨.encryption, Hex.text (List.replicate 16 3), some ⟨0, 0⟩, none⟩]

theorem isFaithful_obligingAnswer (question : Question) :
    Turn.IsFaithful ⟨question, obligingAnswer question⟩ := by
  cases question <;> trivial

theorem exists_runs_obliging {α : Type} (d : Session α) {a : α}
    (h : d.run (fun question (_ : Unit) => (obligingAnswer question, ())) () = (a, ())) :
    ∃ history, Dialogue.Runs (recording Turn.IsFaithful) d [] a history :=
  Dialogue.exists_history_of_run isFaithful_obligingAnswer h

theorem keyChanges_written_ahead_of_obliging :
    (∃ d history, Dialogue.Runs (recording Turn.IsFaithful)
      ((KeyChange.execute ⟨.encryption, List.replicate 16 5⟩).run.run keyedDevice) [] (.ok (), d)
        history ∧
      ∀ past rest record, history = past ++ rest → lastStored? past = some record →
        KeyChange.Stores ⟨.encryption, List.replicate 16 5⟩ keyedDevice past record) ∧
    ∃ d history, Dialogue.Runs (recording Turn.IsFaithful)
      ((KeyPair.execute ⟨List.replicate 16 4, List.replicate 16 5⟩).run.run keyedDevice) []
        (.ok "meter", d) history ∧
      ∀ past wrapped answer rest, history =
          past ++ ⟨.call (KeyChange.transfer .globalUnicastEncryption wrapped), answer⟩ :: rest →
        ∃ stored, ⟨.save stored, .ok stored⟩ ∈ past := by
  obtain ⟨hchange, hpair⟩ := keyChanges_written_ahead keyedDevice
  constructor
  · obtain ⟨d, hrun⟩ : ∃ d, ((KeyChange.execute ⟨.encryption, List.replicate 16 5⟩).run.run
        keyedDevice).run (fun question (_ : Unit) => (obligingAnswer question, ())) () =
          ((.ok (), d), ()) := ⟨_, rfl⟩
    obtain ⟨history, hruns⟩ := exists_runs_obliging _ hrun
    exact ⟨d, history, hruns, (hchange _ _ _ _ hruns).2.2⟩
  · obtain ⟨d, hrun⟩ : ∃ d, ((KeyPair.execute ⟨List.replicate 16 4, List.replicate 16 5⟩).run.run
        keyedDevice).run (fun question (_ : Unit) => (obligingAnswer question, ())) () =
          ((.ok "meter", d), ()) := ⟨_, rfl⟩
    obtain ⟨history, hruns⟩ := exists_runs_obliging _ hrun
    refine ⟨d, history, hruns, fun past wrapped answer rest hcall => ?_⟩
    obtain ⟨first, now, stored, second, hturns, _⟩ :=
      hpair _ _ _ _ hruns past wrapped answer rest hcall
    exact ⟨stored, hturns.subset (List.mem_append_left _ (by simp))⟩

end HeadEnd
