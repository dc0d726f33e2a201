import HeadEnd.Association.ObjectList

/-! # Dumps

The value of every attribute of every object in an association, one attribute a line, for the
diagnosis of a meter. An attribute that the meter does not return is listed with its result.
-/

namespace HeadEnd.Association

def ObjectItem.addresses (object : ObjectItem) : List AttributeAddress :=
  match object.rights with
  | none => []
  | some rights => rights.attributes.map fun item =>
    { classId := object.classId, name := object.logicalName, attributeId := item.attributeId }

/-- The line of an attribute, or lines if the value has elements. -/
def dumpLine (address : AttributeAddress) (result : GetResult) : String :=
  if result.result.isSuccess then address.text ++ " = " ++ result.value.describe ++ "\n"
  else address.text ++ " : " ++ result.result.label ++ "\n"

def dumpObject (object : ObjectItem) : Operation String := do
  if object.addresses.isEmpty then return ""
  Operation.describe
    ("RetrieveConfigurationObjects, retrieve attributes: " ++
      AttributeAddress.textOfList object.addresses)
  let ⟨results, _⟩ ← Operation.readAll object.addresses
  return String.join (List.zipWith dumpLine object.addresses results)

/-- Reads the objects and then all their attributes from the meter. -/
def dump : Operation String := do
  Operation.describe
    ("RetrieveConfigurationObjects, retrieve attribute: " ++ objectListAddress.text)
  let value ← Operation.readValue "association object list" objectListAddress
  let objects ← readObjects value "association object list"
  return String.join (← objects.mapM dumpObject)

end HeadEnd.Association
