import HeadEnd.Exchange.Service
import HeadEnd.Proofs.Exchange.Step
import HeadEnd.Proofs.Key.State

/-! # Sites

A meter with the keys that it really uses, next to what is stored of it. The rules leave open when
the connection is lost, when a record cannot be stored, and whether the meter does what it is told;
they only exclude what no meter does: to accept keys that are not its own, or to report the success
of a key transfer that it did not carry out.
-/

namespace HeadEnd

/-- The plain key that a stored key stands for. -/
def SecurityKey.plain? (decrypt : List UInt8 → Option (List UInt8)) (key : SecurityKey) :
    Option (List UInt8) :=
  match Hex.decode key.material.toList with
  | .ok data => decrypt data
  | .error _ => none

@[simp] theorem SecurityKey.plain?_text {decrypt : List UInt8 → Option (List UInt8)}
    (kind : KeyKind) (material : List UInt8) (validFrom validTo : Option Instant) :
    (SecurityKey.mk kind (Hex.text material) validFrom validTo).plain? decrypt =
      decrypt material := by
  rw [plain?, Hex.text, String.toList_ofList, Hex.decode_encode]

@[simp] theorem SecurityKey.plain?_unconfirmed {decrypt : List UInt8 → Option (List UInt8)}
    (kind : KeyKind) (material : List UInt8) :
    (unconfirmed kind (Hex.text material)).plain? decrypt = decrypt material :=
  plain?_text kind material none none

/-- The kind of the key that a transfer replaces. -/
def KeyRole.kind? : KeyRole → Option KeyKind
  | globalUnicastEncryption => some .encryption
  | globalBroadcastEncryption => none
  | authentication => some .authentication
  | master => some .master

namespace Credentials

def ofKeys (keys : KeyKind → SecurityKey) : Credentials :=
  ⟨keys .authentication, keys .encryption⟩

/-- The credentials with the new keys in place of the valid ones, if there is any new key. -/
def ofNewKeys? (valid : KeyKind → SecurityKey) (new : KeyKind → Option SecurityKey) :
    Option Credentials :=
  (ofKeys valid).withNew? (new .authentication) (new .encryption)

theorem ofNewKeys?_eq_some {valid : KeyKind → SecurityKey} {new : KeyKind → Option SecurityKey}
    {recovery : Credentials} (h : ofNewKeys? valid new = some recovery) :
    recovery = ofKeys fun kind => (new kind).getD (valid kind) := by
  unfold ofNewKeys? withNew? at h
  split at h
  · cases h
  · exact (Option.some.inj h).symm

end Credentials

/-- A meter and what is stored of it. -/
structure Site where
  /-- The latest reading of the clock. -/
  clock : Instant
  stored : Device
  /-- The keys that the meter uses. -/
  meter : KeyKind → List UInt8

namespace Site

variable (decrypt : List UInt8 → Option (List UInt8))

/-- The credentials are the keys that the meter uses. -/
def Accepts (s : Site) (credentials : Credentials) : Prop :=
  credentials.authentication.plain? decrypt = some (s.meter .authentication) ∧
    credentials.encryption.plain? decrypt = some (s.meter .encryption)

instance (s : Site) (credentials : Credentials) : Decidable (s.Accepts decrypt credentials) :=
  inferInstanceAs (Decidable (_ ∧ _))

/-- The meter opens the wrapped key of a transfer and uses it from then on. -/
def Applies (call : MethodCall) (s t : Site) : Prop :=
  ∃ role wrapped kind key, call = KeyChange.transfer role wrapped ∧ role.kind? = some kind ∧
    Cipher.KeyWrap.unwrap Cipher.Aes.cipher (s.meter .master) wrapped = .ok key ∧
    t = { s with meter := fun j => if j = kind then key else s.meter j }

/-- What may happen at a site during a session. A record that cannot be stored may have been stored
all the same. -/
def sessions : Rules HeadEnd.Answer Site
  | .clock, s, now, t => s.clock ≤ now ∧ t = { s with clock := now }
  | .save device, s, answer, t =>
    (answer = .ok device ∧ t = { s with stored := device }) ∨
      ∃ failure, answer = .error failure ∧ (t = s ∨ t = { s with stored := device })
  | .decrypt data, s, answer, t => t = s ∧ ∀ key, answer = .ok key → decrypt data = some key
  | .call call, s, answer, t =>
    Applies call s t ∨
      (t = s ∧ (answer = .ok .success → ∀ role wrapped, call ≠ KeyChange.transfer role wrapped))
  | _, s, _, t => t = s

def exchanges : Rules Exchange.Answer Site
  | .session question, s, answer, t => sessions decrypt question s answer t
  | .load _, s, answer, t =>
    t = s ∧ (answer = .ok s.stored ∨ ∃ failure, answer = .error failure)
  | .connect _ credentials, s, answer, t =>
    t = s ∧ ((answer = .ok () ∧ s.Accepts decrypt credentials) ∨
      ∃ failure, answer = .error failure ∧ failure.isConnectionLoss = true)
  | _, s, _, t => t = s

/-- Nothing goes wrong with the answer: the clock stays within the period, records are stored and
found, and the meter lets in who has its keys. -/
def IsFaultless (period : Instant → Prop) (s : Site) :
    (question : Exchange.Question) → Exchange.Answer question → Prop
  | .session .clock, now => period now
  | .session (.save device), answer => answer = .ok device
  | .load _, answer => answer = .ok s.stored
  | .connect _ credentials, answer => s.Accepts decrypt credentials → answer = .ok ()
  | _, _ => True

/-- What may happen at a site while nothing goes wrong. -/
def faultless (period : Instant → Prop) : Rules Exchange.Answer Site :=
  fun question s answer t =>
    exchanges decrypt question s answer t ∧ s.IsFaultless decrypt period question answer

theorem Accepts.plain? {decrypt : List UInt8 → Option (List UInt8)} {s : Site}
    {keys : KeyKind → SecurityKey} (h : s.Accepts decrypt (.ofKeys keys)) :
    ∀ kind, kind ≠ .master → (keys kind).plain? decrypt = some (s.meter kind)
  | .authentication, _ => h.1
  | .encryption, _ => h.2

variable {decrypt : List UInt8 → Option (List UInt8)} {period : Instant → Prop}
  {rules : Rules Exchange.Answer Site} {r s t : Site}

/-! ## The course of time -/

/-- The instants of the period that may still come. -/
def Later (s : Site) (period : Instant → Prop) (t : Instant) : Prop :=
  period t ∧ s.clock ≤ t

/-- The meter uses the keys that it used, and it is no earlier. -/
structure Onward (s t : Site) : Prop where
  meter : t.meter = s.meter
  clock : s.clock ≤ t.clock

theorem Onward.refl (s : Site) : s.Onward s :=
  ⟨rfl, Instant.le_refl s.clock⟩

theorem Onward.trans (hrs : r.Onward s) (hst : s.Onward t) : r.Onward t :=
  ⟨hst.meter.trans hrs.meter, Instant.le_trans hrs.clock hst.clock⟩

theorem Onward.later (h : s.Onward t) {now : Instant} (hnow : t.Later period now) :
    s.Later period now :=
  ⟨hnow.1, Instant.le_trans h.clock hnow.2⟩

theorem Onward.accepts (h : s.Onward t) {credentials : Credentials} :
    t.Accepts decrypt credentials ↔ s.Accepts decrypt credentials := by
  rw [Accepts, Accepts, h.meter]

variable (decrypt) in
/-- From now on the key of the kind that is in use is the one of the meter, and no other key of the
kind waits to be confirmed. -/
def Agrees (period : Instant → Prop) (s : Site) (device : Device) (kind : KeyKind) : Prop :=
  ∃ key, device.Holds kind key none (s.Later period) ∧ key.plain? decrypt = some (s.meter kind)

theorem Agrees.onward {device : Device} {kind : KeyKind} (h : s.Agrees decrypt period device kind)
    (hst : s.Onward t) : t.Agrees decrypt period device kind := by
  obtain ⟨key, hholds, hplain⟩ := h
  refine ⟨key, hholds.mono fun _ => hst.later, ?_⟩
  rw [hst.meter]
  exact hplain

/-! ## Rules of a site -/

variable (decrypt period rules) in
/-- The rules allow nothing that may not happen at a site, and the clock stays within the period. -/
structure Follows : Prop where
  answers : ∀ question s answer t, rules question s answer t →
    exchanges decrypt question s answer t
  clock : ∀ s now t, rules (.session .clock) s now t → period now

theorem exchanges_follows : Follows decrypt (fun _ => True) (exchanges decrypt) :=
  ⟨fun _ _ _ _ h => h, fun _ _ _ _ => trivial⟩

theorem faultless_follows : Follows decrypt period (faultless decrypt period) :=
  ⟨fun _ _ _ _ h => h.1, fun _ _ _ h => h.2⟩

variable (rules) in
/-- The rules allow that a record cannot be stored. -/
def SaveFails : Prop :=
  ∃ s device failure t, rules (.session (.save device)) s (.error failure) t

variable (rules) in
/-- The rules allow that a meter with the keys of `s` refuses the credentials. -/
def Refuses (s : Site) (credentials : Credentials) : Prop :=
  ∃ s' device failure t, s'.meter = s.meter ∧
    rules (.connect device credentials) s' (.error failure) t

theorem Refuses.of_onward {credentials : Credentials} (h : Refuses rules t credentials)
    (hst : s.Onward t) : Refuses rules s credentials := by
  obtain ⟨s', device, failure, t', hmeter, hrules⟩ := h
  exact ⟨s', device, failure, t', hmeter.trans hst.meter, hrules⟩

end Site

end HeadEnd
