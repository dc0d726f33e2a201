import HeadEnd.Cipher.Aes
import HeadEnd.Cipher.KeyWrap
import HeadEnd.Session.Reading

/-! # Changing keys

A new key is stored as such before the meter is told to use it, so that it is not lost if the answer
of the meter is. It goes to the meter wrapped with the master key. When the meter reports a failure
the key is kept: a meter may use a key although it reported that it does not.
-/

namespace HeadEnd

structure KeyChange where
  kind : KeyKind
  /-- The encrypted key. -/
  material : List UInt8
  deriving DecidableEq

/-- A new authentication key and a new encryption key, both encrypted. -/
structure KeyPair where
  authentication : List UInt8
  encryption : List UInt8
  deriving DecidableEq

def KeyKind.transferRole (kind : KeyKind) : Outcome KeyRole :=
  match kind with
  | .authentication => .ok .authentication
  | .encryption => .ok .globalUnicastEncryption
  | .master => .error (.configuration (.irreplaceableKey .master))

/-- The key of a kind that is in use, which there must be. -/
def Device.validKey (device : Device) (kind : KeyKind) (now : Instant) : Outcome SecurityKey :=
  match device.validKey? kind now with
  | some key => .ok key
  | none => .error (.protocol (.noValidKey kind device.identification))

namespace KeyChange

/-- Opens the stored material of a key. -/
def decryptStored (key : SecurityKey) : Operation (List UInt8) := do
  match Hex.decode key.material.toList with
  | .ok data => Operation.decrypt data
  | .error fault => throw (.security (.storedKey key.kind fault))

/-- The call that transfers a wrapped key to the meter. -/
def transfer (role : KeyRole) (wrapped : List UInt8) : MethodCall :=
  { classId := 64
    name := ⟨0, 0, 43, 0, 0, 255⟩
    methodId := 2
    parameter := some (.array [.tuple [.enumerate role.id, .octets wrapped]]) }

/-- Stores the new key as unconfirmed. -/
def stage (change : KeyChange) : Operation Unit := do
  let now ← Operation.now
  modify fun device => device.addNewKey change.kind (Hex.text change.material) now
  Operation.saveDevice

/-- Takes the new key into use in the record. -/
def confirm (kind : KeyKind) : Operation Unit := do
  let now ← Operation.now
  match (← get).promoteNewKey kind now with
  | .ok device =>
    set device
    Operation.saveDevice
  | .error fault => throw (.protocol fault)

/-- Replaces a key on the meter and in the record. -/
def execute (change : KeyChange) : Operation Unit := do
  let role ← change.kind.transferRole
  let now ← Operation.now
  let master ← (← get).validKey .master now
  let _ ← (← get).validKey change.kind now
  change.stage
  let masterKey ← decryptStored master
  let newKey ← Operation.decrypt change.material
  let wrapped ← (Cipher.KeyWrap.wrap Cipher.Aes.cipher masterKey newKey).mapError Failure.security
  let call := transfer role wrapped
  Operation.describe
    ("ReplaceKey for " ++ change.kind.label ++ " " ++ role.name ++ ", call method: " ++ call.text)
  let result ← Operation.callMethod call
  result.check ("replace " ++ change.kind.label ++ " key")
  Operation.adoptKey change.kind newKey
  confirm change.kind

end KeyChange

/-- Replaces the authentication key and then the encryption key. -/
def KeyPair.execute (keys : KeyPair) : Operation String := do
  KeyChange.execute ⟨.authentication, keys.authentication⟩
  KeyChange.execute ⟨.encryption, keys.encryption⟩
  return (← get).identification

end HeadEnd
