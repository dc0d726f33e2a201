import HeadEnd.Session.Reading

/-! # Activity calendar

A meter holds two calendars of tariffs, an active and a passive one. The passive one is made active
by a method call.
-/

namespace HeadEnd.ActivityCalendar

/-- The call that makes the passive calendar active. -/
def activation : MethodCall :=
  { classId := 20, name := ⟨0, 0, 13, 0, 0, 255⟩, methodId := 1, parameter := some (.int8 0) }

def activate : Operation Unit := do
  Operation.describe ("ActivateActivityCalendar, call method: " ++ activation.text)
  let result ← Operation.callMethod activation
  result.check "activate passive activity calendar"

end HeadEnd.ActivityCalendar
