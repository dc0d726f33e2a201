import HeadEnd.Cosem.ObisCode
import HeadEnd.Cosem.Value

/-! # Descriptions of values

Values as diagnostics show them: over several lines, the elements of lists indented. A byte string
of six bytes is shown as a logical name and one of twelve bytes as a date-time, which is a guess for
the reader only.
-/

namespace HeadEnd

/-- The fields of a date-time by name. -/
def CosemDateTime.fieldsText (t : CosemDateTime) : String :=
  ", ".intercalate
    ["year=" ++ toString t.year, "month=" ++ toString t.month, "day=" ++ toString t.day,
      "weekday=" ++ toString t.weekday, "hour=" ++ toString t.hour,
      "minute=" ++ toString t.minute, "second=" ++ toString t.second,
      "hundredths=" ++ toString t.hundredthsOrZero, "deviation=" ++ t.deviationText,
      "dst=" ++ Value.truthText t.isDaylightSaving]

namespace Value

def bytesText (bytes : List UInt8) : String :=
  "bytes[" ++ ", ".intercalate (bytes.map toString) ++ "]"

/-- A byte string, guessed to be a logical name or a date-time by its length. -/
def describeBytes (bytes : List UInt8) : String :=
  match bytes with
  | [a, b, c, d, e, f] => "logical name: " ++ (ObisCode.mk a b c d e f).extended
  | bytes =>
    match CosemDateTime.decode bytes with
    | .ok t => t.fieldsText
    | .error _ => bytesText bytes

/-- The number that the bytes denote, modulo `2 ^ 128`. -/
def magnitude (bytes : List UInt8) : Nat :=
  bytes.foldl (fun n byte => (256 * n + byte.toNat) % Nat.pow 2 128) 0

/-- A bit string with its bytes as one number. -/
def describeBits (b : BitString) : String :=
  "number of bytes=" ++ toString b.bytes.length ++ ", value=" ++ toString (magnitude b.bytes) ++
    ", bits=" ++ b.binaryText

def indent (depth : Nat) : String :=
  String.ofList (List.replicate (2 * depth) ' ')

/-- What a description shows of a value that has no elements. -/
def describeContent? : Value → Option String
  | octets bytes => some (describeBytes bytes)
  | visible bytes => some (describeBytes bytes)
  | utf8 bytes => some (describeBytes bytes)
  | bits b => some (describeBits b)
  | dateTime t => some t.fieldsText
  | value => value.content?

/-- A list around the descriptions of its elements, each on lines of its own. -/
def describeList (type : ValueType) (depth : Nat) (elements : List String) : String :=
  type.name ++ " (" ++ toString elements.length ++ " elements) [" ++
    String.join (elements.map fun element => "\n" ++ indent (depth + 1) ++ element) ++
    (if elements.isEmpty then "" else "\n" ++ indent depth) ++ "]"

mutual

/-- The description of a value whose first line stands at the given depth. -/
def describeAt (depth : Nat) : Value → String
  | array elements => describeList .array depth (describeEach (depth + 1) elements)
  | tuple elements => describeList .tuple depth (describeEach (depth + 1) elements)
  | value =>
    match value.describeContent? with
    | some content => value.type.name ++ ": " ++ content
    | none => value.type.name

def describeEach (depth : Nat) : List Value → List String
  | [] => []
  | value :: rest => describeAt depth value :: describeEach depth rest

end

def describe (value : Value) : String :=
  describeAt 0 value

end Value

end HeadEnd
