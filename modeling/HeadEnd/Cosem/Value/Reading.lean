import HeadEnd.Failure
import HeadEnd.Number.Narrow

/-! # Reading values

Values as numbers, texts, lists and so on. Each reader is told in which context it reads and fails
with that context when the value has another form. Readers whose name ends in a question mark read
the null value as nothing.
-/

namespace HeadEnd

/-- A result, or why there is none. -/
abbrev Outcome (α : Type) := Except Failure α

/-- The failure of a value that has another form than asked for. -/
def Failure.unexpected (context : String) (shape : Shape) (value : Value) : Failure :=
  .decode context (.unexpected shape value)

/-- The number as one of a narrower type. -/
def narrowed {α : Type} [Narrow α] (number : Int64) (context : String) : Outcome α :=
  match Narrow.narrow? number with
  | some n => .ok n
  | none => .error (.decode context (.outOfRange number))

def narrowed? {α : Type} [Narrow α] (number : Option Int64) (context : String) :
    Outcome (Option α) :=
  match number with
  | some n => (narrowed n context).map some
  | none => .ok none

namespace Value

/-! ## Numbers -/

def toInteger? (value : Value) (context : String) : Outcome (Option Int64) :=
  if value.isNull then .ok none
  else match value.integer? with
    | some n => .ok (some n)
    | none => .error (.unexpected context .integer value)

/-- The integer of a value that must have one. -/
def toInteger (value : Value) (context : String) : Outcome Int64 := do
  match ← value.toInteger? context with
  | some n => return n
  | none => throw (.unexpected context .integer value)

def toNarrow {α : Type} [Narrow α] (value : Value) (context : String) : Outcome α := do
  narrowed (← value.toInteger context) context

def toNarrow? {α : Type} [Narrow α] (value : Value) (context : String) : Outcome (Option α) := do
  narrowed? (← value.toInteger? context) context

/-- The number of a value, whether an integer or not. -/
def toNumber? (value : Value) (context : String) : Outcome (Option Double) :=
  match value with
  | null => .ok none
  | float32 x => .ok (some (.ofSingle x))
  | float64 x => .ok (some x)
  | value =>
    match value.integer? with
    | some n => .ok (some (.ofInt n.toInt))
    | none => .error (.unexpected context .number value)

/-! ## Strings -/

/-- The bytes of a byte string of any kind. -/
def toBytes? (value : Value) (context : String) : Outcome (Option (List UInt8)) :=
  if value.isNull then .ok none
  else match value.bytes? with
    | some bytes => .ok (some bytes)
    | none => .error (.unexpected context .bytes value)

def toText? (value : Value) (context : String) : Outcome (Option String) := do
  match ← value.toBytes? context with
  | none => return none
  | some bytes =>
    match Utf8.decode bytes with
    | .ok cs => return some (String.ofList cs)
    | .error fault => throw (.decode context (.text fault))

def toBits (value : Value) (context : String) : Outcome BitString :=
  match value with
  | bits b => .ok b
  | value => .error (.unexpected context .bits value)

/-- The logical name that a string of six octets is. -/
def toLogicalName (value : Value) (context : String) : Outcome ObisCode :=
  match value with
  | octets [a, b, c, d, e, f] => .ok ⟨a, b, c, d, e, f⟩
  | value => .error (.unexpected context .logicalName value)

/-! ## Lists and truth values -/

/-- The elements of a list of either kind; the null value has none. -/
def toElements (value : Value) (context : String) : Outcome (List Value) :=
  if value.isNull then .ok []
  else match value.elements? with
    | some elements => .ok elements
    | none => .error (.unexpected context .list value)

/-- The elements of a structure that has exactly `count` of them. -/
def toStructure (value : Value) (context : String) (count : Nat) :
    Outcome { elements : List Value // elements.length = count } :=
  match value with
  | tuple elements =>
    if h : elements.length = count then .ok ⟨elements, h⟩
    else .error (.unexpected context (.structureOf count) (tuple elements))
  | value => .error (.unexpected context (.structureOf count) value)

def toBoolean (value : Value) (context : String) : Outcome Bool :=
  match value with
  | boolean b => .ok b
  | value => .error (.unexpected context .boolean value)

/-! ## Date-times -/

/-- The fields of a date-time, given as such or as twelve octets. -/
def toDateTime? (value : Value) (context : String) : Outcome (Option CosemDateTime) :=
  match value with
  | null => .ok none
  | dateTime t => .ok (some t)
  | octets bytes =>
    if bytes.length = 12 then
      match CosemDateTime.decode bytes with
      | .ok t => .ok (some t)
      | .error fault => .error (.decode context (.dateTime fault))
    else .error (.unexpected context .dateTimeBytes (octets bytes))
  | value => .error (.unexpected context .dateTimeBytes value)

def toDateTime (value : Value) (context : String) : Outcome CosemDateTime := do
  match ← value.toDateTime? context with
  | some t => return t
  | none => throw (.unexpected context .dateTime value)

end Value

end HeadEnd
