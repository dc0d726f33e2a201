import HeadEnd.Cosem.Address
import HeadEnd.Cosem.Value.Reading
import HeadEnd.Device
import HeadEnd.Dialogue

/-! # Questions of a session

What an operation needs of the world while a session with a meter is open: requests to the meter,
the clock, the store of device records and the service that opens stored keys.
-/

namespace HeadEnd

/-- Something that only the world can answer or do. -/
inductive Question where
  /-- What time is it? -/
  | clock
  /-- Read an attribute. -/
  | read (address : AttributeAddress)
  /-- Read several attributes with one request. -/
  | readBatch (addresses : List AttributeAddress)
  /-- Write an attribute. -/
  | write (parameter : SetParameter)
  /-- Call a method. -/
  | call (method : MethodCall)
  /-- Use another key on the connection from now on. -/
  | adoptKey (kind : KeyKind) (key : List UInt8)
  /-- Note what the next requests are for. -/
  | describe (text : String)
  /-- Store a device record. -/
  | save (device : Device)
  /-- Open encrypted key material. -/
  | decrypt (data : List UInt8)

abbrev Answer : Question → Type
  | .clock => Instant
  | .read _ => Outcome GetResult
  | .readBatch _ => Outcome (List GetResult)
  | .write _ => Outcome AccessResult
  | .call _ => Outcome MethodResult
  | .adoptKey _ _ => Outcome Unit
  | .describe _ => Unit
  | .save _ => Outcome Device
  | .decrypt _ => Outcome (List UInt8)

/-- A dialogue over an open session. -/
abbrev Session := Dialogue Question Answer

/-- An operation over an open session: it may fail, and it may change the device record that it
works on. What it changed before it failed stays changed. -/
abbrev Operation := ExceptT Failure (StateT Device Session)

namespace Operation

def ask (question : Question) : Operation (Answer question) :=
  ExceptT.mk fun device => .ask question fun answer => .done (.ok answer, device)

/-- Goes on with a result, or fails as it does. -/
def ofOutcome {α : Type} (outcome : Outcome α) : Operation α :=
  ExceptT.mk (pure outcome)

instance : MonadLift (Except Failure) Operation where
  monadLift := ofOutcome

def now : Operation Instant :=
  ask .clock

def readAttribute (address : AttributeAddress) : Operation GetResult := do
  ofOutcome (← ask (.read address))

/-- Reads several attributes with one request. -/
def readBatch (addresses : List AttributeAddress) : Operation (List GetResult) := do
  ofOutcome (← ask (.readBatch addresses))

def writeAttribute (address : AttributeAddress) (value : Value) : Operation AccessResult := do
  ofOutcome (← ask (.write ⟨address, value⟩))

def callMethod (method : MethodCall) : Operation MethodResult := do
  ofOutcome (← ask (.call method))

/-- Uses another key on the connection from now on. -/
def adoptKey (kind : KeyKind) (key : List UInt8) : Operation Unit := do
  ofOutcome (← ask (.adoptKey kind key))

/-- Notes what the next requests are for. -/
def describe (text : String) : Operation Unit :=
  ask (.describe text)

/-- Stores the device record and goes on with it as it was stored. -/
def saveDevice : Operation Unit := do
  set (← ofOutcome (← ask (.save (← get))))

/-- Opens encrypted key material. -/
def decrypt (data : List UInt8) : Operation (List UInt8) := do
  ofOutcome (← ask (.decrypt data))

end Operation

end HeadEnd
