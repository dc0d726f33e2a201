import HeadEnd.Cipher.Aes
import HeadEnd.Cipher.Gcm
import HeadEnd.Exchange.Question
import HeadEnd.Rehearsal.Script

/-! # Worlds

A world that answers all questions: a clock that stands still, a store of device records, and a
meter that follows a script. It keeps a record of what it was asked.
-/

namespace HeadEnd.Rehearsal

/-- Something that the world was asked. -/
inductive Entry where
  | read (address : AttributeAddress)
  | readBatch (addresses : List AttributeAddress)
  | write (parameter : SetParameter)
  | call (method : MethodCall)
  | adoptKey (kind : KeyKind) (key : List UInt8)
  | close
  | load (device : String)
  | save (device : Device)
  | connect (device authenticationKey encryptionKey : String)
  | describe (text : String)

structure World where
  clock : Instant
  devices : List (String × Device)
  meter : MeterScript := {}
  /-- The requests that the meter got since its script was set. -/
  requests : Nat := 0
  connector : ConnectorScript := {}
  /-- The cipher under which stored keys are encrypted. -/
  storage : Cipher.BlockCipher
  /-- The number of records that were to be stored. -/
  saves : Nat := 0
  /-- Which of them could not be stored, counted from one. -/
  failingSaves : List Nat := []
  /-- Records are stored with the debug mode on. -/
  marksSaves : Bool := false
  /-- Descriptions are recorded. -/
  recordsDescriptions : Bool := false
  record : List Entry := []

namespace World

def noting (world : World) (entry : Entry) : World :=
  { world with record := world.record ++ [entry] }

def withMeter (world : World) (script : MeterScript) : World :=
  { world with meter := script, requests := 0 }

def store (world : World) (device : Device) : World :=
  { world with devices := (device.identification, device) ::
      world.devices.filter fun entry => entry.1 != device.identification }

/-- A request to the meter, if the connection is not lost. -/
def request {α : Type} (world : World) (entry : Entry) (answer : MeterScript → α × MeterScript) :
    Outcome α × World :=
  let world := { world.noting entry with requests := world.requests + 1 }
  let isLost :=
    match world.meter.lostAfter with
    | none => false
    | some count => count < world.requests
  if isLost then (.error world.meter.loss, world)
  else
    let (result, meter) := answer world.meter
    (.ok result, { world with meter := meter })

def save (world : World) (device : Device) : Outcome Device × World :=
  let count := world.saves + 1
  let world := { world.noting (.save device) with saves := count }
  if world.failingSaves.contains count then
    (.error (.configuration (.stated ("save " ++ toString count ++ " failed"))), world)
  else
    let kept := if world.marksSaves then { device with inDebugMode := true } else device
    (.ok kept, world.store kept)

def answer (question : Question) (world : World) : Answer question × World :=
  match question with
  | .clock => (world.clock, world)
  | .read address => world.request (.read address) fun meter => (meter.read address, meter)
  | .readBatch addresses =>
    world.request (.readBatch addresses) fun meter => (meter.readBatch addresses, meter)
  | .write parameter => world.request (.write parameter) fun meter => meter.write parameter
  | .call method => world.request (.call method) MeterScript.call
  | .adoptKey kind key =>
    let world := world.noting (.adoptKey kind key)
    if world.meter.refusesKeys then (.error (.security (.stated "key change refused")), world)
    else (.ok (), world)
  | .describe text =>
    ((), if world.recordsDescriptions then world.noting (.describe text) else world)
  | .save device => world.save device
  | .decrypt data => ((Cipher.Gcm.decrypt world.storage data).mapError Failure.encryption, world)

def unknownDevice (device : String) : Failure :=
  .configuration (.stated ("Unknown device " ++ device))

def load (world : World) (device : String) : Outcome Device × World :=
  let world := world.noting (.load device)
  match lookup? world.devices device with
  | some found => (.ok found, world)
  | none => (.error (unknownDevice device), world)

def connect (world : World) (device : Device) (credentials : Credentials) :
    Outcome Unit × World :=
  let authentication := credentials.authentication.material
  let encryption := credentials.encryption.material
  let world := world.noting (.connect device.identification authentication encryption)
  if world.connector.accepts authentication encryption then (.ok (), world)
  else (.error world.connector.rejection, world)

/-- The answer to a question of an exchange. Only one exchange is rehearsed at a time, so locks are
free. -/
def answerExchange (question : Exchange.Question) (world : World) :
    Exchange.Answer question × World :=
  match question with
  | .session question => world.answer question
  | .acquire _ => ((), world)
  | .release _ => ((), world)
  | .load device => world.load device
  | .connect device credentials => world.connect device credentials
  | .close =>
    let world := world.noting .close
    if world.meter.refusesClose then (.error connectionReset, world) else (.ok (), world)

end World

end HeadEnd.Rehearsal
