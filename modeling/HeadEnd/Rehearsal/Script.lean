import HeadEnd.Session.Reading

/-! # Scripts

What a meter and a connector do in a rehearsal: the results of reads, writes and method calls, and
the point from which on the connection is lost.
-/

namespace HeadEnd.Rehearsal

/-- An attribute of an object, whatever part of it is read. -/
structure AttributeKey where
  classId : UInt16
  name : ObisCode
  attributeId : Int8
  deriving DecidableEq

def AttributeKey.ofAddress (address : AttributeAddress) : AttributeKey :=
  ⟨address.classId, address.name, address.attributeId⟩

def lookup? {κ α : Type} [DecidableEq κ] (table : List (κ × α)) (key : κ) : Option α :=
  (table.find? fun row => row.1 == key).map Prod.snd

/-- What a meter does. Of several rows for one attribute the first one holds. -/
structure MeterScript where
  /-- The results of reads; an attribute that is not listed is undefined. -/
  reads : List (AttributeKey × GetResult) := []
  /-- The results of writes; an attribute that is not listed can be written. -/
  writes : List (AttributeKey × AccessResult) := []
  /-- The results of the next method calls; all further ones succeed. -/
  calls : List MethodResult := []
  /-- A value that was written is what later reads return. -/
  storesWrites : Bool := false
  /-- The number of results of every read of a list. -/
  batchSize : Option Nat := none
  /-- The number of requests after which the connection is lost. -/
  lostAfter : Option Nat := none
  /-- How requests fail once the connection is lost. -/
  loss : Failure := .timeout
  /-- The keys of the connection cannot be changed. -/
  refusesKeys : Bool := false
  /-- The connection cannot be closed. -/
  refusesClose : Bool := false

/-- The failure of a connection that the meter has reset. -/
def connectionReset : Failure :=
  .connectionLost "connection reset by device"

namespace MeterScript

def read (script : MeterScript) (address : AttributeAddress) : GetResult :=
  (lookup? script.reads (.ofAddress address)).getD (.refusal .objectUndefined)

def readBatch (script : MeterScript) (addresses : List AttributeAddress) : List GetResult :=
  let results := addresses.map script.read
  match script.batchSize with
  | none => results
  | some size =>
    results.take size ++ List.replicate (size - results.length) (.refusal .objectUndefined)

/-- The result of a write, and the script after it. -/
def write (script : MeterScript) (parameter : SetParameter) : AccessResult × MeterScript :=
  let key := AttributeKey.ofAddress parameter.address
  let result := (lookup? script.writes key).getD .success
  if result.isSuccess && script.storesWrites then
    (result, { script with reads := (key, .success parameter.value) :: script.reads })
  else (result, script)

def call (script : MeterScript) : MethodResult × MeterScript :=
  match script.calls with
  | [] => (.success, script)
  | result :: rest => (result, { script with calls := rest })

end MeterScript

/-- Which keys a connector accepts. -/
structure ConnectorScript where
  /-- Pairs of an authentication and an encryption key; a key that is left out is any. Without pairs
  every key is accepted. -/
  accepted : Option (List (Option String × Option String)) := none
  /-- How connecting fails with other keys. -/
  rejection : Failure := connectionReset

namespace ConnectorScript

def matchesKey (expected : Option String) (material : String) : Bool :=
  match expected with
  | none => true
  | some key => key == material

def accepts (script : ConnectorScript) (authentication encryption : String) : Bool :=
  match script.accepted with
  | none => true
  | some pairs =>
    pairs.any fun pair => matchesKey pair.1 authentication && matchesKey pair.2 encryption

end ConnectorScript

end HeadEnd.Rehearsal
