import HeadEnd.Text.Blank
import HeadEnd.Text.Decimal

/-! # OBIS codes

The identification of an object of a meter: six value groups of a byte each. Texts come in a dotted
form and in an extended form with a mark of its own after the first two groups.
-/

namespace HeadEnd

/-- An object identification: medium, channel, quantity, processing, classification, history. -/
structure ObisCode where
  a : UInt8
  b : UInt8
  c : UInt8
  d : UInt8
  e : UInt8
  f : UInt8
  deriving DecidableEq

namespace ObisCode

/-- Why something is not an OBIS code. -/
inductive Fault where
  /-- The text has neither of the two forms. -/
  | format (text : String)
  /-- A logical name has six bytes. -/
  | length (count : Nat)
  deriving DecidableEq

def Fault.message : Fault → String
  | .format text => "Invalid OBIS code format: " ++ text
  | .length count => "Logical name must be 6 bytes, got " ++ toString count

def bytes (o : ObisCode) : List UInt8 :=
  [o.a, o.b, o.c, o.d, o.e, o.f]

def ofBytes : List UInt8 → Except Fault ObisCode
  | [a, b, c, d, e, f] => .ok ⟨a, b, c, d, e, f⟩
  | bytes => .error (.length bytes.length)

/-- The dotted text, such as `1.0.1.8.0.255`. -/
def dotted (o : ObisCode) : String :=
  ".".intercalate (o.bytes.map toString)

/-- The extended text, such as `1-0:1.8.0.255`. -/
def extended (o : ObisCode) : String :=
  toString o.a ++ "-" ++ toString o.b ++ ":" ++
    ".".intercalate ([o.c, o.d, o.e, o.f].map toString)

/-! ## Reading -/

/-- A numeral of ASCII digits whose value fits a byte. -/
def byte? (cs : List Char) : Option UInt8 := do
  let n ← Decimal.number? cs
  if n < 256 then return UInt8.ofNat n else none

/-- A group of the dotted form: a plus sign may stand before the digits. -/
def group? : List Char → Option UInt8
  | '+' :: rest => byte? rest
  | cs => byte? cs

/-- The pieces between the occurrences of `mark`. -/
def pieces (mark : Char) : List Char → List (List Char)
  | [] => [[]]
  | c :: rest =>
    if c = mark then [] :: pieces mark rest
    else match pieces mark rest with
      | [] => [[c]]
      | piece :: more => (c :: piece) :: more

/-- The dotted form: six groups with points between them. -/
def ofDotted? (cs : List Char) : Option ObisCode :=
  match pieces '.' cs with
  | [a, b, c, d, e, f] => do
    return ⟨← group? a, ← group? b, ← group? c, ← group? d, ← group? e, ← group? f⟩
  | _ => none

/-- A group of the extended form, one to three digits, and what follows them. -/
def shortGroup? (cs : List Char) : Option (UInt8 × List Char) := do
  let ds := cs.takeWhile Char.isDigit
  if 3 < ds.length then none else return (← byte? ds, cs.dropWhile Char.isDigit)

def markedGroup? (mark : Char) : List Char → Option (UInt8 × List Char)
  | c :: rest => if c = mark then shortGroup? rest else none
  | [] => none

/-- The last group of the extended form, 255 when it is left out. -/
def lastGroup? : List Char → Option UInt8
  | [] => some 255
  | c :: rest =>
    if c = '.' ∨ c = '*' then
      match shortGroup? rest with
      | some (f, []) => some f
      | _ => none
    else none

/-- The extended form: `A-B:C.D.E`, and `.F` or `*F` or nothing after it. -/
def ofExtended? (cs : List Char) : Option ObisCode := do
  let (a, cs) ← shortGroup? cs
  let (b, cs) ← markedGroup? '-' cs
  let (c, cs) ← markedGroup? ':' cs
  let (d, cs) ← markedGroup? '.' cs
  let (e, cs) ← markedGroup? '.' cs
  return ⟨a, b, c, d, e, ← lastGroup? cs⟩

/-- The code that a text denotes; blanks around it do not count. -/
def ofText (text : String) : Except Fault ObisCode :=
  let cs := Blank.trim text.toList
  match (ofDotted? cs).or (ofExtended? cs) with
  | some code => .ok code
  | none => .error (.format (String.ofList cs))

theorem ofBytes_bytes (o : ObisCode) : ofBytes o.bytes = .ok o := rfl

end ObisCode

end HeadEnd
