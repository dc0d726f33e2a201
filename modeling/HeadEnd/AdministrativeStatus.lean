import HeadEnd.Session.Reading

/-! # Administrative status

Whether a metering point is administratively on or off.
-/

namespace HeadEnd

/-- The administrative status of a metering point. -/
inductive AdministrativeStatus where
  | undefined
  | off
  | on
  deriving DecidableEq

namespace AdministrativeStatus

def all : List AdministrativeStatus :=
  [undefined, off, on]

def name : AdministrativeStatus → String
  | undefined => "Undefined"
  | off => "Off"
  | on => "On"

def ofCode (code : Int64) : AdministrativeStatus :=
  if code = 1 then off else if code = 2 then on else undefined

def address : AttributeAddress :=
  { classId := 1, name := ⟨0, 1, 94, 31, 0, 255⟩, attributeId := 2 }

def fetch : Operation AdministrativeStatus := do
  Operation.describe ("GetAdministrativeStatus, retrieve attribute: " ++ address.text)
  let value ← Operation.readValue "administrative status" address
  match ← value.toInteger? "administrative status" with
  | some code => return ofCode code
  | none => throw (.protocol .noAdministrativeStatus)

end AdministrativeStatus

end HeadEnd
