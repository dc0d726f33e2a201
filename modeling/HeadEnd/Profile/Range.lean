import HeadEnd.Clock.Object
import HeadEnd.Cosem.Instant

/-! # Ranges of profiles

The part of a profile between two instants. A meter that supports it is asked for that part only.
-/

namespace HeadEnd.Profile

def classId : UInt16 := 7

/-- The attribute of a profile that holds its entries. -/
def bufferAddress (name : ObisCode) : AttributeAddress :=
  { classId := classId, name := name, attributeId := 2 }

/-- A span of time, ends included. -/
structure Span where
  start : ZonedTime
  finish : ZonedTime

def Span.contains (span : Span) (time : Instant) : Bool :=
  decide (span.start.instant ≤ time) && decide (time ≤ span.finish.instant)

/-- Selects the entries whose clock lies in a span, and of them the given columns; no columns stand
for all of them. -/
def rangeSelection (span : Span) (columns : List Value) : Outcome SelectiveAccess := do
  let start ← Value.ofZoned span.start
  let finish ← Value.ofZoned span.finish
  let range := Value.tuple [Clock.timeReference, start, finish, .array columns]
  return { selector := 1, parameter := range }

end HeadEnd.Profile
