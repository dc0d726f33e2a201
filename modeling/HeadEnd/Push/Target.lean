import HeadEnd.Cosem.ObisCode

/-! # Push targets

The two push setup objects of a meter: one for alarms, one for waking the meter by SMS.
-/

namespace HeadEnd

inductive PushTarget where
  | alarm
  | sms
  deriving DecidableEq

namespace PushTarget

def all : List PushTarget :=
  [alarm, sms]

def logicalName : PushTarget → ObisCode
  | alarm => ⟨0, 1, 25, 9, 0, 255⟩
  | sms => ⟨0, 2, 25, 9, 0, 255⟩

def name : PushTarget → String
  | alarm => "Alarm"
  | sms => "Sms"

/-- How messages show a target. -/
def label : PushTarget → String
  | alarm => "alarm"
  | sms => "SMS"

end PushTarget

end HeadEnd
