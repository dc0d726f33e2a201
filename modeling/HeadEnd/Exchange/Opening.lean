import HeadEnd.Exchange.Question
import HeadEnd.Key.Change

/-! # Opening sessions

A session is opened with the keys that are in use. If the connection is lost at once while keys are
waiting to be confirmed, the meter may have taken them into use although it reported a failure: the
session is then tried with these keys, and they are promoted if it succeeds. If it succeeds with the
keys in use, unconfirmed keys are discarded.
-/

namespace HeadEnd

structure OpenSession where
  /-- Its messages are logged. -/
  observed : Bool
  deriving DecidableEq

def OpenSession.text (session : OpenSession) : String :=
  "DeviceSession \x7b observed: " ++ Value.truthText session.observed ++ ", .. \x7d"

namespace Credentials

/-- The keys of a device that are in use. -/
def valid (device : Device) (now : Instant) : Outcome Credentials := do
  let authentication ← device.validKey .authentication now
  let encryption ← device.validKey .encryption now
  return { authentication, encryption }

/-- The credentials with every unconfirmed key in place of the one in use, if there is any. -/
def withNew? (credentials : Credentials) (authentication encryption : Option SecurityKey) :
    Option Credentials :=
  match authentication, encryption with
  | none, none => none
  | authentication, encryption => some {
      authentication := authentication.getD credentials.authentication
      encryption := encryption.getD credentials.encryption }

/-- The kinds of the keys that are unconfirmed. -/
def newKinds (credentials : Credentials) (now : Instant) : List KeyKind :=
  ([credentials.authentication, credentials.encryption].filter fun key => key.isIn .new now).map
    SecurityKey.kind

end Credentials

namespace Exchange

def connect (credentials : Credentials) : Step (Outcome Unit) := do
  Step.ask (.connect (← get) credentials)

/-- The session, now that there is a connection. -/
def opened : Step OpenSession := do
  return ⟨(← get).inDebugMode⟩

/-- Discards the unconfirmed keys of a kind and tells whether there were any. -/
def discardNewKeys (kind : KeyKind) : Step Bool := do
  let now ← Operation.now
  let device ← get
  let discarded := device.discardNewKeys kind now
  set discarded
  return discarded.keys.length < device.keys.length

/-- Discards the unconfirmed keys that the session does without. -/
def discardUnconfirmed : Step Unit := do
  let now ← Operation.now
  if (← get).hasNewKeys now then
    let authentication ← discardNewKeys .authentication
    let encryption ← discardNewKeys .encryption
    if authentication || encryption then Operation.saveDevice

def promote (now : Instant) (kind : KeyKind) : Step Unit := do
  match (← get).promoteNewKey kind now with
  | .ok device => set device
  | .error fault => throw (.protocol fault)

/-- Takes the unconfirmed keys into use that the session was opened with. -/
def promoteConfirmed (recovery : Credentials) : Step Unit := do
  let now ← Operation.now
  (recovery.newKinds now).forM (promote now)
  Operation.saveDevice

def recoveryCredentials? (credentials : Credentials) : Step (Option Credentials) := do
  let now ← Operation.now
  let authentication := (← get).newKey? .authentication now
  let now ← Operation.now
  let encryption := (← get).newKey? .encryption now
  return credentials.withNew? authentication encryption

/-- Tries the unconfirmed keys after a failure; if they do not work either, the failure stands. -/
def recover (credentials : Credentials) (failure : Failure) : Step OpenSession := do
  match ← recoveryCredentials? credentials with
  | none => throw failure
  | some recovery =>
    if !failure.isConnectionLoss then throw failure
    match ← connect recovery with
    | .ok () =>
      promoteConfirmed recovery
      opened
    | .error _ => throw failure

def openSession : Step OpenSession := do
  let now ← Operation.now
  let credentials ← Credentials.valid (← get) now
  match ← connect credentials with
  | .ok () =>
    discardUnconfirmed
    opened
  | .error failure => recover credentials failure

end Exchange

end HeadEnd
