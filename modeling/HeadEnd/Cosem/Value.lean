import HeadEnd.Cosem.BitString
import HeadEnd.Cosem.DateTime
import HeadEnd.Number.Shortest
import HeadEnd.Text.Hex
import HeadEnd.Text.Utf8

/-! # Attribute values

What a meter holds in an attribute or takes as a parameter: numbers, byte strings, bit strings,
dates, and lists of values.
-/

namespace HeadEnd

inductive ValueType where
  | null
  | boolean
  | int8
  | int16
  | int32
  | int64
  | uint8
  | uint16
  | uint32
  | uint64
  | float32
  | float64
  | enumerate
  | bcd
  | octets
  | visible
  | utf8
  | bits
  | array
  | tuple
  | date
  | dateTime
  deriving DecidableEq

/-- The name that the standard gives a type. -/
def ValueType.name : ValueType → String
  | null => "NULL_DATA"
  | boolean => "BOOLEAN"
  | int8 => "INTEGER"
  | int16 => "LONG_INTEGER"
  | int32 => "DOUBLE_LONG"
  | int64 => "LONG64"
  | uint8 => "UNSIGNED"
  | uint16 => "LONG_UNSIGNED"
  | uint32 => "DOUBLE_LONG_UNSIGNED"
  | uint64 => "LONG64_UNSIGNED"
  | float32 => "FLOAT32"
  | float64 => "FLOAT64"
  | enumerate => "ENUMERATE"
  | bcd => "BCD"
  | octets => "OCTET_STRING"
  | visible => "VISIBLE_STRING"
  | utf8 => "UTF8_STRING"
  | bits => "BIT_STRING"
  | array => "ARRAY"
  | tuple => "STRUCTURE"
  | date => "DATE"
  | dateTime => "DATE_TIME"

/-- A value of an attribute or a parameter. -/
inductive Value where
  | null
  | boolean (b : Bool)
  | int8 (n : Int8)
  | int16 (n : Int16)
  | int32 (n : Int32)
  | int64 (n : Int64)
  | uint8 (n : UInt8)
  | uint16 (n : UInt16)
  | uint32 (n : UInt32)
  | uint64 (n : UInt64)
  | float32 (x : Single)
  | float64 (x : Double)
  | enumerate (n : UInt8)
  /-- A byte that stands for two decimal digits. -/
  | bcd (n : UInt8)
  | octets (bytes : List UInt8)
  | visible (bytes : List UInt8)
  | utf8 (bytes : List UInt8)
  | bits (b : BitString)
  /-- A list whose elements should be of one type; that is not enforced. -/
  | array (elements : List Value)
  /-- A list whose elements have a meaning by position. -/
  | tuple (elements : List Value)
  | date (d : CosemDate)
  | dateTime (t : CosemDateTime)

namespace Value

def type : Value → ValueType
  | null => .null
  | boolean _ => .boolean
  | int8 _ => .int8
  | int16 _ => .int16
  | int32 _ => .int32
  | int64 _ => .int64
  | uint8 _ => .uint8
  | uint16 _ => .uint16
  | uint32 _ => .uint32
  | uint64 _ => .uint64
  | float32 _ => .float32
  | float64 _ => .float64
  | enumerate _ => .enumerate
  | bcd _ => .bcd
  | octets _ => .octets
  | visible _ => .visible
  | utf8 _ => .utf8
  | bits _ => .bits
  | array _ => .array
  | tuple _ => .tuple
  | date _ => .date
  | dateTime _ => .dateTime

def isNull : Value → Bool
  | null => true
  | _ => false

/-- The number a value holds, if it is an integer of 64 bits with a sign. -/
def integer? : Value → Option Int64
  | int8 n => some n.toInt64
  | int16 n => some n.toInt64
  | int32 n => some n.toInt64
  | int64 n => some n
  | uint8 n => some (Int64.ofNat n.toNat)
  | uint16 n => some (Int64.ofNat n.toNat)
  | uint32 n => some (Int64.ofNat n.toNat)
  | uint64 n => if n.toNat < Nat.pow 2 63 then some (Int64.ofNat n.toNat) else none
  | enumerate n => some (Int64.ofNat n.toNat)
  | bcd n => some (Int64.ofNat n.toNat)
  | _ => none

/-- The bytes of a byte string of any kind. -/
def bytes? : Value → Option (List UInt8)
  | octets bytes => some bytes
  | visible bytes => some bytes
  | utf8 bytes => some bytes
  | _ => none

/-- The elements of a list of either kind. -/
def elements? : Value → Option (List Value)
  | array elements => some elements
  | tuple elements => some elements
  | _ => none

/-! ## Arrays of one type -/

/-- An array holds an element of another type than its first. -/
structure MixedTypes where
  first : ValueType
  index : Nat
  found : ValueType
  deriving DecidableEq

def MixedTypes.message (fault : MixedTypes) : String :=
  "Array is of type " ++ fault.first.name ++ ", but element at " ++ toString fault.index ++
    " is of type " ++ fault.found.name

/-- The position and type of the first value that is not of the given type. -/
def firstOther? (type : ValueType) : Nat → List Value → Option (Nat × ValueType)
  | _, [] => none
  | index, value :: rest =>
    if value.type = type then firstOther? type (index + 1) rest else some (index, value.type)

/-- The array of the given elements, if they are of one type. -/
def ofElements (elements : List Value) : Except MixedTypes Value :=
  match elements with
  | [] => .ok (array [])
  | first :: _ =>
    match firstOther? first.type 0 elements with
    | some (index, found) => .error ⟨first.type, index, found⟩
    | none => .ok (array elements)

/-! ## One-line texts -/

def truthText (b : Bool) : String :=
  if b then "true" else "false"

/-- The text of a number, whatever its width. -/
def numberText? : Value → Option String
  | uint64 n => some (toString n.toNat)
  | float32 x => some x.text
  | float64 x => some x.text
  | value => value.integer?.map fun n => toString n.toInt

/-- What a summary shows beside the type. -/
def content? : Value → Option String
  | null => none
  | boolean b => some (truthText b)
  | octets bytes => some ("[" ++ " ".intercalate (bytes.map Hex.upperText) ++ "]")
  | visible bytes => some ("\"" ++ String.ofList (Utf8.decodeLossy bytes) ++ "\"")
  | utf8 bytes => some ("\"" ++ String.ofList (Utf8.decodeLossy bytes) ++ "\"")
  | bits b => some b.binaryText
  | array elements => some ("of " ++ toString elements.length ++ " element(s)")
  | tuple elements => some ("of " ++ toString elements.length ++ " element(s)")
  | date d => some d.text
  | dateTime t => some t.text
  | value => value.numberText?

/-- One line: the type, then the value or the number of elements. -/
def summary (value : Value) : String :=
  match value.content? with
  | some content => value.type.name ++ " " ++ content
  | none => value.type.name

end Value

end HeadEnd
