import HeadEnd.Session.Question

/-! # Questions of an exchange

What an exchange with a meter needs of the world besides the questions of its session: the lock of
the device, its record, and a connection.
-/

namespace HeadEnd

/-- The keys that a session is authenticated with. -/
structure Credentials where
  authentication : SecurityKey
  encryption : SecurityKey
  deriving DecidableEq

namespace Exchange

/-- Something that only the world can answer or do. -/
inductive Question where
  /-- A question of the session. -/
  | session (question : HeadEnd.Question)
  /-- Wait for the lock of a device and take it. -/
  | acquire (device : String)
  /-- Give the lock of a device back. -/
  | release (device : String)
  /-- Look up the record of a device. -/
  | load (device : String)
  /-- Connect to a device. -/
  | connect (device : Device) (credentials : Credentials)
  /-- Close the connection. -/
  | close

abbrev Answer : Question → Type
  | .session question => HeadEnd.Answer question
  | .acquire _ => Unit
  | .release _ => Unit
  | .load _ => Outcome Device
  | .connect _ _ => Outcome Unit
  | .close => Outcome Unit

end Exchange

/-- A dialogue that takes care of the connection itself. -/
abbrev Exchange := Dialogue Exchange.Question Exchange.Answer

namespace Exchange

def ask (question : Question) : Exchange (Answer question) :=
  Dialogue.question question

/-- A dialogue over the session as a part of an exchange. -/
def ofSession {α : Type} (session : Session α) : Exchange α :=
  session.relay fun question => ask (.session question)

/-- A part of an exchange that may fail and may change the device record. -/
abbrev Step := ExceptT Failure (StateT Device Exchange)

namespace Step

def ask (question : Question) : Step (Answer question) :=
  ExceptT.mk fun device => Dialogue.ask question fun answer => .done (.ok answer, device)

/-- An operation over the session as a part of an exchange. -/
def ofOperation {α : Type} (operation : Operation α) : Step α :=
  ExceptT.mk fun device => ofSession (operation.run.run device)

/-- Goes on with a result, or fails as it does. -/
def ofOutcome {α : Type} (outcome : Outcome α) : Step α :=
  ExceptT.mk (pure outcome)

instance : MonadLift (Except Failure) Step where
  monadLift := ofOutcome

instance : MonadLift Operation Step where
  monadLift := ofOperation

end Step

end Exchange

end HeadEnd
