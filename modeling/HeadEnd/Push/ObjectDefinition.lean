import HeadEnd.Cosem.Value.Reading

/-! # Object definitions

References to attributes of objects, as a meter lists what it pushes.
-/

namespace HeadEnd

/-- An attribute of an object, or one element of it. -/
structure ObjectDefinition where
  classId : UInt16
  logicalName : ObisCode
  attributeIndex : Int8
  /-- Zero for the whole attribute. -/
  dataIndex : UInt16
  deriving DecidableEq

def Value.toObjectDefinition (value : Value) (context : String) : Outcome ObjectDefinition := do
  match ← value.toStructure context 4 with
  | ⟨[classId, logicalName, attributeIndex, dataIndex], _⟩ =>
    let classId ← classId.toNarrow ("Class ID from " ++ context)
    let logicalName ← logicalName.toLogicalName ("Logical Name from " ++ context)
    let attributeIndex ← attributeIndex.toNarrow ("Attribute Index from " ++ context)
    let dataIndex ← dataIndex.toNarrow ("Data Index from " ++ context)
    return { classId, logicalName, attributeIndex, dataIndex }

def Value.toObjectDefinitions (value : Value) (context : String) :
    Outcome (List ObjectDefinition) := do
  (← value.toElements context).mapM fun element =>
    element.toObjectDefinition ("Object Definition from " ++ context)

end HeadEnd
