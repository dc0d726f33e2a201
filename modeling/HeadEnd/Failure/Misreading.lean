import HeadEnd.Cosem.Value.Description

/-! # Misreadings

Why a value that a meter answered with does not have the form that was asked for.
-/

namespace HeadEnd

/-- What a value should have been. -/
inductive Shape where
  | integer
  | number
  | bytes
  | list
  | boolean
  | bits
  | logicalName
  | dateTimeBytes
  | dateTime
  /-- A structure with exactly `count` elements. -/
  | structureOf (count : Nat)
  /-- A structure with `count` elements or more. -/
  | structureOfAtLeast (count : Nat)
  | scalerAndUnit
  | destination
  | event
  | modeAndFlags
  | version
  deriving DecidableEq

def Shape.text : Shape → String
  | integer => "an integer"
  | number => "a number"
  | bytes => "a byte array"
  | list => "a list"
  | boolean => "a boolean"
  | bits => "a bit string"
  | logicalName => "a 6-byte logical name"
  | dateTimeBytes => "a 12-byte date-time"
  | dateTime => "a date-time"
  | structureOf count => "a structure with " ++ toString count ++ " elements"
  | structureOfAtLeast count => "a structure of at least " ++ toString count ++ " elements"
  | scalerAndUnit => "a structure of scaler and unit"
  | destination => "a destination"
  | event => "an event structure"
  | modeAndFlags => "the operation mode and flags"
  | version => "a version"

/-- A code whose meaning is looked up in a table. -/
inductive CodeTable where
  | transportService
  | messageType
  | accessMode
  deriving DecidableEq

def CodeTable.text : CodeTable → String
  | transportService => "transport service type"
  | messageType => "message type"
  | accessMode => "access mode"

/-- Why a value could not be read. -/
inductive Misreading where
  /-- The value has another form. -/
  | unexpected (shape : Shape) (value : Value)
  /-- The number does not fit. -/
  | outOfRange (number : Int64)
  /-- The table does not hold the code. -/
  | unknownCode (table : CodeTable) (code : Int64)
  /-- The bytes are no text. -/
  | text (fault : Utf8.Fault)
  /-- The bytes are no date-time. -/
  | dateTime (fault : CosemDateTime.Fault)
  /-- The date-time does not denote an instant. -/
  | noInstant (value : Value)
  /-- Any other reason, in words. -/
  | stated (words : String)

def Misreading.message : Misreading → String
  | unexpected shape value => "expected " ++ shape.text ++ ", got " ++ value.describe
  | outOfRange number => "value " ++ toString number.toInt ++ " out of range"
  | unknownCode table code => "unknown " ++ table.text ++ " " ++ toString code.toInt
  | text fault => "invalid text: " ++ fault.message
  | dateTime fault => "Invalid data: " ++ fault.message
  | noInstant value => "not a specified date-time: " ++ value.describe
  | stated words => words

end HeadEnd
