import HeadEnd.Session.Reading

/-! # Special days

Dates on which a meter follows another day profile than the day of the week asks for. They are
written as one numbered table.
-/

namespace HeadEnd

/-- A date and the day profile to follow on it. -/
structure SpecialDay where
  /-- May leave fields unspecified, such as the year for a date of every year. -/
  date : CosemDate
  dayId : UInt8
  deriving DecidableEq

namespace SpecialDay

def address : AttributeAddress :=
  { classId := 11, name := ⟨0, 0, 11, 0, 0, 255⟩, attributeId := 2 }

def text (day : SpecialDay) : String :=
  toString day.dayId ++ " => " ++ day.date.text

/-- The entry of the table with the given number. -/
def entry (index : Nat) (day : SpecialDay) : Value :=
  .tuple [.uint16 (UInt16.ofNat index), .date day.date, .uint8 day.dayId]

/-- The entry at a place among `count` days, if the place has a number of sixteen bits. -/
def entryAt (count place : Nat) (day : SpecialDay) : Outcome Value :=
  if place < 65536 then .ok (entry place day)
  else .error (.configuration (.tooManySpecialDays count))

/-- The entries from a place on, up to the first that has no number. -/
def entriesFrom (count place : Nat) (days : List SpecialDay) : Outcome (List Value) :=
  (days.zipIdx place).mapM fun (day, place) => entryAt count place day

def table (days : List SpecialDay) : Outcome Value := do
  let entries ← entriesFrom days.length 0 days
  (Value.ofElements entries).mapError fun fault => .invalidData (.array fault)

/-- The days as a part of a description. -/
def valuesText (days : List SpecialDay) : String :=
  if days.isEmpty then "" else ", values [" ++ ", ".intercalate (days.map text) ++ "]"

def install (days : List SpecialDay) : Operation AccessResult := do
  let table ← table days
  Operation.describe
    ("SetSpecialDays" ++ valuesText days ++ ", set attribute: " ++ address.text)
  Operation.writeAttribute address table

end SpecialDay

end HeadEnd
