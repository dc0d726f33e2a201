import HeadEnd.Cosem.Address

/-! # The clock object

The object of a meter that holds its clock, and the reference to the clock by which parts of a
profile are selected.
-/

namespace HeadEnd.Clock

def classId : UInt16 := 8

def logicalName : ObisCode := ⟨0, 0, 1, 0, 0, 255⟩

def attributeAddress (id : Int8) : AttributeAddress :=
  { classId := classId, name := logicalName, attributeId := id }

def timeAddress : AttributeAddress :=
  attributeAddress 2

/-- The reference to an attribute, as a whole, of an object whose values a profile holds. -/
def captureReference (classId : UInt16) (name : ObisCode) (attributeId : Int8) : Value :=
  .tuple [.uint16 classId, .octets name.bytes, .int8 attributeId, .uint16 0]

def timeReference : Value :=
  captureReference classId logicalName 2

end HeadEnd.Clock
