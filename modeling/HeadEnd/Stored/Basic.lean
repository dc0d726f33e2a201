import HeadEnd.Stored.Document
import HeadEnd.Text.Utf8

/-! # Stored types

Types whose members can be written as documents and read back. Reading is strict about the kind of
each datum and about the range of numbers; it does not look at fields that it has no use for.
-/

namespace HeadEnd

/-- What may stand beside a name that has no data. -/
inductive ReadMode where
  /-- Null only. -/
  | strict
  /-- Null, or a record without fields: the payload of a record is read so. -/
  | lenient

def ReadMode.isNothing : ReadMode → Document → Bool
  | _, .null => true
  | lenient, .record [] => true
  | _, _ => false

/-- A type whose members are stored as documents. What is written is the same for every mode of
reading. -/
class Stored (α : Type) where
  write : α → Document
  read? : ReadMode → Document → Option α

namespace Stored

/-- The member that a field holds; a field that is missing holds none. -/
def required? {α : Type} [Stored α] (mode : ReadMode) (field : Option Document) : Option α :=
  field.bind (read? mode)

/-- The member that a field may hold; a field that is missing counts as null. -/
def optional? {α : Type} [Stored α] (mode : ReadMode) (field : Option Document) :
    Option (Option α) :=
  match field with
  | none => some none
  | some .null => some none
  | some document => (read? mode document).map some

def nothing? (field : Option Document) : Option Unit :=
  match field with
  | none => some ()
  | some .null => some ()
  | some _ => none

/-! ## Simple data -/

instance : Stored Unit where
  write _ := .null
  read? mode document := if mode.isNothing document then some () else none

instance : Stored Bool where
  write := .boolean
  read?
    | _, .boolean b => some b
    | _, _ => none

instance : Stored String where
  write := .text
  read?
    | _, .text s => some s
    | _, _ => none

/-- The integer of a document, if it lies in a range. -/
def integerWithin? (least greatest : Int) : Document → Option Int
  | .integer n => if least ≤ n ∧ n ≤ greatest then some n else none
  | _ => none

instance : Stored UInt8 where
  write n := .integer n.toNat
  read? _ d := (integerWithin? 0 255 d).map fun n => UInt8.ofNat n.toNat

instance : Stored UInt16 where
  write n := .integer n.toNat
  read? _ d := (integerWithin? 0 65535 d).map fun n => UInt16.ofNat n.toNat

instance : Stored Int8 where
  write n := .integer n.toInt
  read? _ d := (integerWithin? (-128) 127 d).map Int8.ofInt

instance : Stored Int16 where
  write n := .integer n.toInt
  read? _ d := (integerWithin? (-32768) 32767 d).map Int16.ofInt

instance : Stored Int32 where
  write n := .integer n.toInt
  read? _ d := (integerWithin? (-2147483648) 2147483647 d).map Int32.ofInt

instance : Stored Int64 where
  write n := .integer n.toInt
  read? _ d := (integerWithin? (-9223372036854775808) 9223372036854775807 d).map Int64.ofInt

/-! ## Compound data -/

instance {α : Type} [Stored α] : Stored (Option α) where
  write
    | none => .null
    | some a => write a
  read?
    | _, .null => some none
    | mode, document => (read? mode document).map some

instance {α : Type} [Stored α] : Stored (List α) where
  write items := .list (items.map write)
  read?
    | mode, .list items => items.mapM (read? mode)
    | _, _ => none

/-- Bytes that are stored as a list of numbers; a text stands for its UTF-8 form. -/
def readBytes? (mode : ReadMode) : Document → Option (List UInt8)
  | .text s => some (Utf8.encode s)
  | document => read? mode document

/-! ## Enumerations -/

/-- The member of an enumeration that a name stands for. The name may be the only field of a record,
with no data. -/
def readName? {α : Type} (all : List α) (name : α → String) (mode : ReadMode) :
    Document → Option α
  | .text s => all.find? fun a => name a == s
  | .record [(s, datum)] => if mode.isNothing datum then all.find? fun a => name a == s else none
  | _ => none

/-- A type whose members are stored by name. -/
abbrev named {α : Type} (all : List α) (name : α → String) : Stored α where
  write a := .text (name a)
  read? := readName? all name

def writeVariant {α : Type} [Stored α] (name : String) (datum : α) : Document :=
  .record [(name, write datum)]

def readVariant? {α : Type} [Stored α] (name : String) (mode : ReadMode) : Document → Option α
  | .record [(s, datum)] => if s = name then read? mode datum else none
  | _ => none

/-- A kind and the payload that belongs to it. -/
def writeTagged (kind : String) : Option Document → Document
  | none => .record [("type", .text kind)]
  | some payload => .record [("type", .text kind), ("payload", payload)]

end Stored

end HeadEnd
