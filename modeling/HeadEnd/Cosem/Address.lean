import HeadEnd.Cosem.ObisCode
import HeadEnd.Cosem.ResultCode
import HeadEnd.Cosem.Value

/-! # Addresses

What a request to a meter is about: an attribute or a method of an object, named by the class and
the logical name of the object and by an index.
-/

namespace HeadEnd

/-- Restricts a read to some entries of a list. -/
structure SelectiveAccess where
  /-- 1 for a range of values, 2 for a range of positions. -/
  selector : UInt8
  parameter : Value

structure AttributeAddress where
  classId : UInt16
  name : ObisCode
  attributeId : Int8
  selection : Option SelectiveAccess := none

/-- The class, the logical name and the index, in braces, with `extra` before the closing one. -/
def addressText (classId : UInt16) (name : ObisCode) (index : Int8) (extra : String) : String :=
  "\x7b" ++ toString classId ++ "," ++ name.extended ++ "," ++ toString index.toInt ++ extra ++
    "\x7d"

namespace AttributeAddress

/-- The text of an address, such as `{8,0-0:1.0.0.255,2}`. -/
def text (address : AttributeAddress) : String :=
  addressText address.classId address.name address.attributeId
    (match address.selection with
    | some selection => ", selector " ++ toString selection.selector
    | none => "")

def textOfList (addresses : List AttributeAddress) : String :=
  ", ".intercalate (addresses.map text)

end AttributeAddress

/-- A value to write and the attribute to write it to. -/
structure SetParameter where
  address : AttributeAddress
  value : Value

def SetParameter.text (parameter : SetParameter) : String :=
  parameter.address.text ++ " = " ++ parameter.value.summary

/-- A method of an object with the parameter it is called with. -/
structure MethodCall where
  classId : UInt16
  name : ObisCode
  methodId : Int8
  parameter : Option Value

/-- The text of a call, without its parameter. -/
def MethodCall.text (call : MethodCall) : String :=
  addressText call.classId call.name call.methodId ""

/-- What a meter answers to the read of an attribute. -/
structure GetResult where
  result : AccessResult
  /-- Null when the attribute could not be read. -/
  value : Value

def GetResult.success (value : Value) : GetResult :=
  ⟨.success, value⟩

def GetResult.refusal (result : AccessResult) : GetResult :=
  ⟨result, .null⟩

end HeadEnd
