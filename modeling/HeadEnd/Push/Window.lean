import HeadEnd.Cosem.Value.Reading

/-! # Communication windows

Spans of time in which a meter may push. Their ends usually leave fields unspecified.
-/

namespace HeadEnd

/-- A span of time. -/
structure PushWindow where
  start : CosemDateTime
  finish : CosemDateTime
  deriving DecidableEq

def PushWindow.toValue (w : PushWindow) : Value :=
  .tuple [.octets w.start.encode, .octets w.finish.encode]

def Value.toPushWindow (value : Value) (context : String) : Outcome PushWindow := do
  match ← value.toStructure context 2 with
  | ⟨[start, finish], _⟩ =>
    let start ← start.toDateTime ("Start Time from " ++ context)
    let finish ← finish.toDateTime ("End Time from " ++ context)
    return ⟨start, finish⟩

def Value.toPushWindows (value : Value) (context : String) : Outcome (List PushWindow) := do
  (← value.toElements context).mapM fun element =>
    element.toPushWindow ("Window Element from " ++ context)

end HeadEnd
